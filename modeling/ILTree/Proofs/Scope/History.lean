import ILTree.Proofs.Scope.Numbering
import ILTree.Proofs.Scope.Parameters
import ILTree.Proofs.Scope.Untyped

/-!
# Numbers from the history

All that a scope hands out can be told by counting the requests before it.  There are no counters
here, and the numbers are integers of any size.

* `declarations rs`      how many of the requests declare a variable;
* `Request.Due past r a`   `a` is the answer that is due to `r` after the requests `past`;
* `due_run`              within the counters every answer of a run is the one that is due;
* `numbers_run`          the numbers from one counter are consecutive, whatever else is asked for;
* `answers_of_history`   the answers of a run from the history alone.
-/

namespace ILTree

/-! ## what is due -/

/-- The request declares a variable after the requests `past`. -/
def Request.declares (past : List Request) : Request → Bool
  | newLocal _ | newNamedLocal _ _ | newPinnedLocal _ | newStackSlot _ | newExceptionVariable _ =>
    true
  | declareThis _ => Variable.thisIndex ∉ (asked past).map Prod.fst
  | declareParameter index _ => Int32.ofNat index.toNat ∉ (asked past).map Prod.fst
  | newBlock | newContainer _ | lookUp _ => false

/-- each request of a list, with the requests before it -/
def withPast (rs : List Request) : List (List Request × Request) :=
  rs.mapIdx fun n r => (rs.take n, r)

/-- how many of the requests declare a variable -/
def declarations (rs : List Request) : Nat := (withPast rs).countP fun (past, r) => r.declares past

/-- The fields of a variable, with the id and the index as numbers. -/
structure Variable.Is (v : Variable) (id : Nat) (kind : VariableKind) (index : Int) (ty : Ty)
    (name : Option String) : Prop where
  id : v.id.index = id
  kind : v.kind = kind
  index : v.index.toInt = index
  ty : v.ty = ty
  name : v.name = name

/-- A parameter is declared if no earlier request asked for its index, and refused otherwise. -/
def ParameterDue (past : List Request) (index : Int32) (ty : Ty) : Answer → Prop
  | .var v => index ∉ (asked past).map Prod.fst ∧
      v.Is (declarations past) .parameter index.toInt ty none
  | .refused fault => index ∈ (asked past).map Prod.fst ∧ fault = .duplicateParameter index
  | _ => False

/-- The answer that is due to a request after the requests `past`. -/
def Request.Due (past : List Request) : Request → Answer → Prop
  | newLocal ty, .var v => v.Is (declarations past) .localSlot (drawn .locals past) ty none
  | newNamedLocal ty name, .var v =>
    v.Is (declarations past) .localSlot (drawn .locals past) ty (some name)
  | newPinnedLocal ty, .var v =>
    v.Is (declarations past) .pinnedLocal (drawn .locals past) ty none
  | newStackSlot ty, .var v =>
    v.Is (declarations past) .stackSlot (drawn .stackSlots past) ty none
  | newExceptionVariable ty, .var v =>
    v.Is (declarations past) .exceptionSlot (drawn .exceptions past) ty none
  | declareThis ty, a => ParameterDue past Variable.thisIndex ty a
  | declareParameter index ty, a => ParameterDue past (Int32.ofNat index.toNat) ty a
  | newBlock, .block b => b.id.toNat = drawn .blocks past
  | newContainer kind, .container c => c.id.toNat = 1 + drawn .containers past ∧ c.kind = kind
  | lookUp id, .var v => id.index < declarations past ∧ v.id = id
  | lookUp id, .refused fault => declarations past ≤ id.index ∧ fault = .unknownVariable id
  | _, _ => False

/-- the number in an answer; that of a variable is its index -/
def Answer.number? : Answer → Option Int
  | var v => some v.index.toInt
  | block b => some b.id.toNat
  | container c => some c.id.toNat
  | refused _ => none

/-- the numbers that the answers give to the requests that draw on the counter, in order -/
def numbers (c : Counter) (rs : List Request) (as : List Answer) : List Int :=
  (rs.zip as).filterMap fun (r, a) => if r.counter? = some c then a.number? else none

theorem withPast_concat (rs : List Request) (r : Request) :
    withPast (rs ++ [r]) = withPast rs ++ [(rs, r)] := by
  rw [withPast, List.mapIdx_concat, List.take_left, withPast]
  congr 1
  rw [List.mapIdx_eq_mapIdx_iff]
  intro n hn
  rw [List.take_append_of_le_length (Nat.le_of_lt hn)]

theorem declarations_concat (rs : List Request) (r : Request) :
    declarations (rs ++ [r]) = declarations rs + if r.declares rs then 1 else 0 := by
  rw [declarations, withPast_concat, List.countP_append, List.countP_singleton, ← declarations]

namespace Scope

/-! ## ids of variables -/

/-- Whether a request declares a variable can be told from the requests before it. -/
theorem Recalls.declares {past : List Request} {s : Scope} (h : s.Recalls past) (r : Request) :
    (r.handsOut (s.step r).1).isSome = r.declares past := by
  have htaken (index : Int32) :
      (!s.hasParameter index) = decide (index ∉ (asked past).map Prod.fst) := by
    rw [decide_not, ← Bool.decide_coe (s.hasParameter index)]
    exact congrArg not (decide_eq_decide.mpr h.hasParameter)
  cases r with
  | declareThis ty =>
    rw [step, declareThis, map_declareAt, Request.declares, ← htaken]
    split <;> simp_all [Request.handsOut]
  | declareParameter index ty =>
    rw [step, declareParameter, map_declareAt, Request.declares, ← htaken]
    split <;> simp_all [Request.handsOut]
  | _ => rfl

/-- The table holds as many variables as the requests declare. -/
theorem length_table (rs : List Request) : (new.run rs).2.table.length = declarations rs := by
  have step (past : List Request) (s : Scope) (r : Request)
      (h : s.Recalls past ∧ s.table.length = declarations past) :
      (s.step r).2.Recalls (past ++ [r]) ∧
        (s.step r).2.table.length = declarations (past ++ [r]) := by
    refine ⟨recalls_step past s r h.1, ?_⟩
    rw [step_table, List.length_append, h.2, declarations_concat, ← h.1.declares]
    cases r.handsOut (s.step r).1 <;> rfl
  exact (run_history step rs [] new ⟨recalls_new, rfl⟩).2

/-! ## answers -/

theorem is_nextVariable (rs : List Request) {kind : VariableKind} {index : Int32} {n : Int}
    (ty : Ty) (name : Option String) (hindex : index.toInt = n) :
    ((new.run rs).2.nextVariable kind index ty name).Is (declarations rs) kind n ty name :=
  ⟨length_table rs, rfl, hindex, rfl, rfl⟩

theorem parameterDue_run (past : List Request) (index : Int32) (ty : Ty) :
    ParameterDue past index ty (.ofExcept ((new.run past).2.declareAt index ty).1) := by
  have htaken : (new.run past).2.hasParameter index = true ↔ index ∈ (asked past).map Prod.fst :=
    (recalls_run past).hasParameter
  unfold declareAt
  split
  next h => exact ⟨htaken.mp h, rfl⟩
  next h => exact ⟨fun hm => h (htaken.mpr hm), is_nextVariable past ty none rfl⟩

/-- a look-up finds the variable with the id, if so many are declared -/
theorem due_lookUp (past : List Request) (id : VariableId) :
    (Request.lookUp id).Due past (.ofExcept ((new.run past).2.lookUp id)) := by
  have hlength := length_table past
  cases h : (new.run past).2.table[id.index]? with
  | some v =>
    rw [lookUp_eq_ok.mpr h]
    have hlt := (List.getElem?_eq_some_iff.mp h).1
    rw [hlength] at hlt
    exact ⟨hlt, positional_run past _ v h⟩
  | none =>
    have hle := List.getElem?_eq_none_iff.mp h
    rw [lookUp_of_le hle]
    rw [hlength] at hle
    exact ⟨hle, rfl⟩

/-- Within the counters every request is given what is due to it. -/
theorem due_run {past : List Request} (hw : new.Within past) (r : Request) :
    r.Due past ((new.run past).2.step r).1 := by
  have hnext (c : Counter) : (new.run past).2.next c = new.next c + drawn c past :=
    Room.next_run (hw c)
  have hlocals : (new.run past).2.localCount.toInt = drawn .locals past :=
    (hnext .locals).trans (Int.zero_add _)
  cases r with
  | newLocal ty => exact is_nextVariable past ty none hlocals
  | newNamedLocal ty name => exact is_nextVariable past ty (some name) hlocals
  | newPinnedLocal ty => exact is_nextVariable past ty none hlocals
  | newStackSlot ty =>
    exact is_nextVariable past ty none ((hnext .stackSlots).trans (Int.zero_add _))
  | newExceptionVariable ty =>
    exact is_nextVariable past ty none ((hnext .exceptions).trans (Int.zero_add _))
  | declareThis ty => exact parameterDue_run past _ ty
  | declareParameter index ty => exact parameterDue_run past _ ty
  | newBlock =>
    have h : ((new.run past).2.nextBlock.toNat : Int) = 0 + drawn .blocks past := hnext .blocks
    show (new.run past).2.nextBlock.toNat = drawn .blocks past
    omega
  | newContainer kind =>
    have h : ((new.run past).2.nextContainer.toNat : Int) = 1 + drawn .containers past :=
      hnext .containers
    refine ⟨?_, rfl⟩
    show (new.run past).2.nextContainer.toNat = 1 + drawn .containers past
    omega
  | lookUp id => exact due_lookUp past id

/-! ## the numbers from a counter -/

theorem number_step {s : Scope} {r : Request} {c : Counter} (h : r.counter? = some c) :
    (s.step r).1.number? = some (s.next c) := by
  cases r <;> cases h <;> rfl

theorem numbers_cons (c : Counter) (r : Request) (rs : List Request) (a : Answer)
    (as : List Answer) :
    numbers c (r :: rs) (a :: as) =
      (if r.counter? = some c then a.number? else none).toList ++ numbers c rs as := by
  rw [numbers, List.zip_cons_cons, List.filterMap_cons, ← numbers]
  split <;> simp_all

/-- Only the requests that draw on a counter take part in its numbers. -/
theorem numbers_run {rs : List Request} {s : Scope} {c : Counter} (hroom : s.Room c rs) :
    numbers c rs (s.run rs).1 = (List.range (drawn c rs)).map fun k : Nat => s.next c + k := by
  induction rs generalizing s with
  | nil => rfl
  | cons r rs ih =>
    have hnext := next_step s r c hroom.lt_top
    have hdrawn := drawn_cons c r rs
    rw [run_cons, numbers_cons, ih hroom.step, hnext]
    by_cases h : r.counter? = some c
    · rw [if_pos h] at hdrawn
      have e : drawn c (r :: rs) = drawn c rs + 1 := by omega
      rw [if_pos h, if_pos h, number_step h, e, List.range_succ_eq_map, List.map_cons,
        List.map_map, Option.toList_some, List.singleton_append]
      congr 1
      · exact (Int.add_zero _).symm
      · refine List.map_congr_left fun k _ => ?_
        show s.next c + 1 + (k : Int) = s.next c + ((k + 1 : Nat) : Int)
        omega
    · rw [if_neg h] at hdrawn
      have e : drawn c (r :: rs) = drawn c rs := by omega
      rw [if_neg h, if_neg h, e, Int.add_zero]
      rfl

/-- A request does not touch the numbers from a counter that it does not draw on. -/
theorem numbers_without {before after : List Request} {r : Request} {c : Counter}
    (hroom : new.Room c (before ++ r :: after)) (hr : r.counter? ≠ some c) :
    numbers c (before ++ r :: after) (new.run (before ++ r :: after)).1 =
      numbers c (before ++ after) (new.run (before ++ after)).1 := by
  have hsub : (before ++ after).Sublist (before ++ r :: after) :=
    (List.sublist_cons_self r after).append_left before
  have hdrawn : drawn c (before ++ r :: after) = drawn c (before ++ after) := by
    rw [drawn, drawn, List.countP_append, List.countP_append,
      List.countP_cons_of_neg (by simpa using hr)]
  rw [numbers_run hroom, numbers_run (hroom.sublist hsub), hdrawn]

/-- **Answers from the history.**  In a run within the counters, each counter stands where it
started plus the number of requests that drew on it, and never past its end.  Each request is given
the answer that is due to it after the requests before it.  The numbers from a counter stay as they
are without a request that does not draw on it.  Another run that asks for the same with other types
and names is answered in the same way but for the types and names. -/
theorem answers_of_history {rs : List Request} (hw : new.Within rs) :
    (∀ n c, (new.run (rs.take n)).2.next c = new.next c + drawn c (rs.take n) ∧
      (new.run (rs.take n)).2.next c ≤ c.top) ∧
    (∀ (n : Nat) (r : Request), rs[n]? = some r →
      ∃ a, (new.run rs).1[n]? = some a ∧ r.Due (rs.take n) a) ∧
    (∀ before r after c, rs = before ++ r :: after → r.counter? ≠ some c →
      numbers c rs (new.run rs).1 =
        numbers c (before ++ after) (new.run (before ++ after)).1) ∧
    (∀ qs : List Request, qs.map Request.untyped = rs.map Request.untyped →
      (new.run qs).1.map Answer.untyped = (new.run rs).1.map Answer.untyped) := by
  have hearlier (n : Nat) : new.Within (rs.take n) :=
    fun c => Room.sublist (hw c) (List.take_sublist n rs)
  refine ⟨fun n c => ?_, fun n r h => ?_, ?_, fun qs h => ?_⟩
  · have e := Room.next_run (hearlier n c)
    have hle := hearlier n c
    exact ⟨e, by omega⟩
  · exact ⟨_, run_getElem? h new, due_run (hearlier n) r⟩
  · rintro before r after c rfl hr
    exact numbers_without (hw c) hr
  · have hq := run_untyped new qs
    rw [h, run_untyped] at hq
    exact (Prod.mk.inj hq).1.symm

/-- the second pinned local, after variables of all kinds, a parameter refused and targets -/
theorem answers_of_history_mixed :
    let rs : List Request :=
      [.declareThis .object, .newPinnedLocal .u8, .newStackSlot .i32, .newContainer .loop,
        .declareThis .string, .newExceptionVariable .object, .newNamedLocal .string "text",
        .newBlock, .newPinnedLocal (.byRef .u8), .newContainer .function]
    new.Within rs ∧
    (Request.newPinnedLocal (.byRef .u8)).Due (rs.take 8)
      (.var ⟨⟨5⟩, .pinnedLocal, 2, .byRef .u8, none⟩) ∧
    declarations (rs.take 8) = 5 ∧ drawn .locals (rs.take 8) = 2 ∧
    numbers .containers rs (new.run rs).1 = [1, 2] := by
  intro rs
  have hw : new.Within rs := by
    intro c
    cases c <;> decide
  obtain ⟨-, hdue, hother, -⟩ := answers_of_history hw
  obtain ⟨a, ha, h⟩ := hdue 8 _ rfl
  obtain rfl := Option.some.inj ha
  refine ⟨hw, h, by decide, by decide, ?_⟩
  rw [hother [] _ _ .containers rfl (by decide)]
  decide

end Scope

end ILTree
