import ILTree.Scope.Request

/-!
# The variable table over a run

A run is a list of requests to a new scope, in any order, refused ones and look-ups included.

* `handedOut rs as`    the variables that the requests `rs` declare, read off the answers `as`;
* `step_cases`         what one request does to the table, and what it hands out (`Declares`);
* `run_table`          a run appends to the table what it hands out, and nothing else;
* `Positional s`       the id of each variable of the table is its position (`positional_run`);
* `run_invariant`, `run_history`   what every request keeps, a run keeps;
* `table_of_history`   the table, the ids and all look-ups from the history alone.
-/

namespace ILTree

/-! ## what is handed out -/

/-- the variable that the answer to a request hands out; a look-up hands out nothing new -/
def Request.handsOut : Request → Answer → Option Variable
  | .lookUp _, _ => none
  | _, .var v => some v
  | _, _ => none

/-- the variables handed out by a list of requests with these answers, in order -/
def handedOut : List Request → List Answer → List Variable
  | r :: rs, a :: as => (r.handsOut a).toList ++ handedOut rs as
  | _, _ => []

namespace Scope

/-! ## runs -/

theorem run_cons (s : Scope) (r : Request) (rs : List Request) :
    s.run (r :: rs) = ((s.step r).1 :: ((s.step r).2.run rs).1, ((s.step r).2.run rs).2) := rfl

theorem run_append (s : Scope) (rs more : List Request) :
    s.run (rs ++ more) =
      ((s.run rs).1 ++ ((s.run rs).2.run more).1, ((s.run rs).2.run more).2) := by
  induction rs generalizing s with
  | nil => rfl
  | cons r rs ih => rw [List.cons_append, run_cons, ih, run_cons, List.cons_append]

/-- What every request keeps, a run keeps. -/
theorem run_invariant {P : Scope → Prop} (step : ∀ s r, P s → P (s.step r).2) (rs : List Request)
    (s : Scope) (h : P s) : P (s.run rs).2 := by
  induction rs generalizing s with
  | nil => exact h
  | cons r rs ih => exact ih _ (step s r h)

/-- What each request keeps when it joins the requests before it, a run keeps. -/
theorem run_history {P : List Request → Scope → Prop}
    (step : ∀ past s r, P past s → P (past ++ [r]) (s.step r).2) (rs past : List Request)
    (s : Scope) (h : P past s) : P (past ++ rs) (s.run rs).2 := by
  induction rs generalizing past s with
  | nil =>
    rw [List.append_nil]
    exact h
  | cons r rs ih =>
    rw [run_cons, List.append_cons]
    exact ih _ _ (step past s r h)

/-- A request is answered by the scope that the requests before it lead to. -/
theorem run_getElem? {rs : List Request} {n : Nat} {r : Request} (h : rs[n]? = some r)
    (s : Scope) : (s.run rs).1[n]? = some ((s.run (rs.take n)).2.step r).1 := by
  induction rs generalizing n s with
  | nil => cases h
  | cons q rs ih =>
    cases n with
    | zero =>
      obtain rfl := Option.some.inj h
      rfl
    | succ n =>
      rw [List.getElem?_cons_succ] at h
      rw [run_cons, List.take_succ_cons, run_cons]
      exact ih h _

/-! ## one request and the table -/

/-- what each request declares in a scope; a parameter only if its index is not taken -/
inductive Declares (s : Scope) : Request → Variable → Prop where
  | newLocal (ty : Ty) :
      Declares s (.newLocal ty) (s.nextVariable .localSlot s.localCount ty none)
  | newNamedLocal (ty : Ty) (name : String) :
      Declares s (.newNamedLocal ty name) (s.nextVariable .localSlot s.localCount ty (some name))
  | newPinnedLocal (ty : Ty) :
      Declares s (.newPinnedLocal ty) (s.nextVariable .pinnedLocal s.localCount ty none)
  | newStackSlot (ty : Ty) :
      Declares s (.newStackSlot ty) (s.nextVariable .stackSlot s.stackSlotCount ty none)
  | newExceptionVariable (ty : Ty) :
      Declares s (.newExceptionVariable ty)
        (s.nextVariable .exceptionSlot s.exceptionCount ty none)
  | declareThis (ty : Ty) (fresh : s.hasParameter Variable.thisIndex = false) :
      Declares s (.declareThis ty) (s.nextVariable .parameter Variable.thisIndex ty none)
  | declareParameter (index : UInt16) (ty : Ty)
      (fresh : s.hasParameter (Int32.ofNat index.toNat) = false) :
      Declares s (.declareParameter index ty)
        (s.nextVariable .parameter (Int32.ofNat index.toNat) ty none)

theorem Declares.id_eq {s : Scope} {r : Request} {v : Variable} (h : s.Declares r v) :
    v.id = ⟨s.table.length⟩ := by
  cases h <;> rfl

/-- a declaration of a parameter, refused or not -/
theorem map_declareAt (s : Scope) (index : Int32) (ty : Ty) :
    (s.declareAt index ty).map Answer.ofExcept id =
      if s.hasParameter index then (.refused (.duplicateParameter index), s)
      else (.var (s.nextVariable .parameter index ty none),
        (s.push (s.nextVariable .parameter index ty none)).2) := by
  unfold declareAt
  split <;> rfl

/-- A request hands out what it declares and appends it to the table, or does neither. -/
theorem step_cases (s : Scope) (r : Request) :
    (∃ v, s.Declares r v ∧ r.handsOut (s.step r).1 = some v ∧
      (s.step r).2.table = s.table ++ [v]) ∨
    (r.handsOut (s.step r).1 = none ∧ (s.step r).2.table = s.table) := by
  cases r with
  | newLocal ty => exact .inl ⟨_, .newLocal ty, rfl, rfl⟩
  | newNamedLocal ty name => exact .inl ⟨_, .newNamedLocal ty name, rfl, rfl⟩
  | newPinnedLocal ty => exact .inl ⟨_, .newPinnedLocal ty, rfl, rfl⟩
  | newStackSlot ty => exact .inl ⟨_, .newStackSlot ty, rfl, rfl⟩
  | newExceptionVariable ty => exact .inl ⟨_, .newExceptionVariable ty, rfl, rfl⟩
  | declareThis ty =>
    rw [step, declareThis, map_declareAt]
    split
    · exact .inr ⟨rfl, rfl⟩
    · exact .inl ⟨_, .declareThis ty (by simp_all), rfl, rfl⟩
  | declareParameter index ty =>
    rw [step, declareParameter, map_declareAt]
    split
    · exact .inr ⟨rfl, rfl⟩
    · exact .inl ⟨_, .declareParameter index ty (by simp_all), rfl, rfl⟩
  | newBlock => exact .inr ⟨rfl, rfl⟩
  | newContainer kind => exact .inr ⟨rfl, rfl⟩
  | lookUp id => exact .inr ⟨rfl, rfl⟩

theorem step_table (s : Scope) (r : Request) :
    (s.step r).2.table = s.table ++ (r.handsOut (s.step r).1).toList := by
  obtain ⟨v, -, hv, ht⟩ | ⟨hv, ht⟩ := step_cases s r
  · rw [ht, hv, Option.toList_some]
  · rw [ht, hv, Option.toList_none, List.append_nil]

/-! ## the table of a run -/

theorem run_table (s : Scope) (rs : List Request) :
    (s.run rs).2.table = s.table ++ handedOut rs (s.run rs).1 := by
  induction rs generalizing s with
  | nil => exact (List.append_nil _).symm
  | cons r rs ih =>
    rw [run_cons, ih, step_table, List.append_assoc]
    rfl

/-- the id of each variable is its position -/
def Positional (s : Scope) : Prop := ∀ (n : Nat) (v : Variable), s.table[n]? = some v → v.id = ⟨n⟩

theorem positional_new : new.Positional := by
  intro n v h
  exact absurd h (by simp [new])

theorem positional_step (s : Scope) (r : Request) (h : s.Positional) :
    (s.step r).2.Positional := by
  intro n v hn
  obtain ⟨w, hw, -, ht⟩ | ⟨-, ht⟩ := step_cases s r
  · rw [ht, List.getElem?_append] at hn
    split at hn
    · exact h n v hn
    · obtain ⟨hlt, rfl⟩ := List.getElem?_eq_some_iff.mp hn
      have e : n = s.table.length := by
        rw [List.length_singleton] at hlt
        omega
      simp only [List.getElem_singleton, hw.id_eq, e]
  · rw [ht] at hn
    exact h n v hn

theorem positional_run (rs : List Request) : (new.run rs).2.Positional :=
  run_invariant positional_step rs new positional_new

/-- two variables of the table with one id are the same in every field -/
theorem Positional.eq_of_id {s : Scope} (h : s.Positional) {v w : Variable} (hv : v ∈ s.table)
    (hw : w ∈ s.table) (e : v.id = w.id) : v = w := by
  obtain ⟨n, hn⟩ := List.mem_iff_getElem?.mp hv
  obtain ⟨m, hm⟩ := List.mem_iff_getElem?.mp hw
  rw [h n v hn, h m w hm] at e
  cases e
  exact Option.some.inj (hn.symm.trans hm)

/-- no two variables of the table compare as the same -/
theorem Positional.pairwise {s : Scope} (h : s.Positional) :
    s.table.Pairwise fun v w => v.same w = false := by
  rw [List.pairwise_iff_getElem]
  intro m n hm hn hmn
  have em := h m _ (List.getElem?_eq_getElem hm)
  have en := h n _ (List.getElem?_eq_getElem hn)
  rw [Bool.eq_false_iff, Ne, Variable.same_iff, em, en]
  intro e
  cases e
  omega

/-! ## look-ups -/

theorem lookUp_eq_ok {s : Scope} {id : VariableId} {v : Variable} :
    s.lookUp id = .ok v ↔ s.table[id.index]? = some v := by
  unfold lookUp
  split <;> simp_all

theorem lookUp_of_le {s : Scope} {id : VariableId} (h : s.table.length ≤ id.index) :
    s.lookUp id = .error (.unknownVariable id) := by
  rw [lookUp, List.getElem?_eq_none h]

/-- A variable that is found once is found after any further requests. -/
theorem lookUp_run {s : Scope} {id : VariableId} {v : Variable} (h : s.lookUp id = .ok v)
    (more : List Request) : (s.run more).2.lookUp id = .ok v := by
  rw [lookUp_eq_ok] at h ⊢
  rw [run_table, List.getElem?_append_left (List.getElem?_eq_some_iff.mp h).1, h]

/-- **The table from the history.**  After any run the table is what was handed out, in order,
each variable at the position that is its id.  A look-up finds the variable with the id, the only
one of this id that the run or any continuation of it hands out, goes on finding it, and fails
exactly for the ids not given yet.  No two variables of a scope compare as the same. -/
theorem table_of_history (rs : List Request) :
    let s := (new.run rs).2
    let vs := handedOut rs (new.run rs).1
    s.table = vs ∧
    (∀ (n : Nat) (v : Variable), s.table[n]? = some v → v.id = ⟨n⟩) ∧
    (∀ id : VariableId, id.index < vs.length →
      ∃ v, s.lookUp id = .ok v ∧ v ∈ vs ∧ v.id = id ∧
        ∀ more, ∀ w ∈ handedOut (rs ++ more) (new.run (rs ++ more)).1, w.id = id → w = v) ∧
    (∀ id : VariableId, vs.length ≤ id.index → s.lookUp id = .error (.unknownVariable id)) ∧
    (∀ id v more, s.lookUp id = .ok v → (new.run (rs ++ more)).2.lookUp id = .ok v) ∧
    vs.Pairwise fun v w => v.same w = false := by
  intro s vs
  have htable (qs : List Request) : (new.run qs).2.table = handedOut qs (new.run qs).1 :=
    run_table new qs
  have hlater (id : VariableId) (v : Variable) (more : List Request) (h : s.lookUp id = .ok v) :
      (new.run (rs ++ more)).2.lookUp id = .ok v := by
    rw [run_append]
    exact lookUp_run h more
  refine ⟨htable rs, positional_run rs, fun id hid => ?_, fun id hid => ?_, hlater, ?_⟩
  · have hv : vs[id.index]? = some vs[id.index] := List.getElem?_eq_getElem hid
    have hfound : s.lookUp id = .ok vs[id.index] := by rw [lookUp_eq_ok, htable rs, hv]
    refine ⟨vs[id.index], hfound, List.getElem_mem hid, ?_, fun more w hw e => ?_⟩
    · exact positional_run rs _ _ (lookUp_eq_ok.mp hfound)
    · rw [← htable] at hw
      have hp := positional_run (rs ++ more)
      have hv' := lookUp_eq_ok.mp (hlater id _ more hfound)
      exact hp.eq_of_id hw (List.mem_of_getElem? hv') (e.trans (hp _ _ hv').symm)
  · exact lookUp_of_le (by rw [htable rs]; exact hid)
  · have e : vs = s.table := (htable rs).symm
    rw [e]
    exact (positional_run rs).pairwise

end Scope

end ILTree
