import ILTree.Proofs.Scope.Parameters

/-!
# The receiver of a scope

That a variable is the receiver is read off its kind and its index.  In the scope that a run leads
to this is right: no request but a declaration of the receiver gives out such a variable, and only
one of these declarations is not refused.

* `Declares.step`       what is declared is the answer, and the last variable of the table;
* `declares_of_mem`     each variable of the table was declared by one of the requests;
* `ReceiverAt rs n v`   the request at position `n` declared `v` as the receiver;
* `isThis_iff`          the variables that are taken for the receiver;
* `text_eq_this_iff`    the variables that print as the receiver does.
-/

namespace ILTree

namespace Variable

theorem append_ne_this {u : String} {c : Char} (hu : u.toList.head? = some c) (hc : c ≠ 't')
    (x : String) : u ++ x ≠ "this" := by
  intro e
  have hhead : (u.toList ++ x.toList).head? = some 't' := by
    rw [← String.toList_append, e]
    rfl
  rw [List.head?_append, hu] at hhead
  exact hc (Option.some.inj hhead)

theorem slotText_eq_this_iff (k : VariableKind) (i : Int32) :
    slotText k i = "this" ↔ k = .parameter ∧ i < 0 := by
  cases k with
  | parameter =>
    rw [slotText]
    split
    next h => exact ⟨fun _ => ⟨rfl, h⟩, fun _ => rfl⟩
    next h =>
      exact ⟨fun e => absurd e (append_ne_this rfl (by decide) _), fun e => absurd e.2 h⟩
  | _ =>
    exact ⟨fun e => absurd e (append_ne_this rfl (by decide) _),
      fun e => VariableKind.noConfusion e.1⟩

/-- A variable without a name prints as `this` exactly if it is taken for the receiver. -/
theorem text_eq_this_iff {v : Variable} (h : v.name = none) :
    v.text = "this" ↔ v.isThis = true := by
  rw [text, h, Option.getD_none, slotText_eq_this_iff, isThis, Bool.and_eq_true_iff, beq_iff_eq,
    decide_eq_true_iff]

end Variable

namespace Scope

/-! ## who declared a variable -/

theorem Declares.step {s : Scope} {r : Request} {v : Variable} (h : s.Declares r v) :
    (s.step r).1 = .var v ∧ (s.step r).2.table = s.table ++ [v] := by
  cases h with
  | declareThis ty fresh =>
    rw [step_parameter rfl, if_neg (by rw [fresh]; exact Bool.false_ne_true)]
    exact ⟨rfl, rfl⟩
  | declareParameter index ty fresh =>
    rw [step_parameter rfl, if_neg (by rw [fresh]; exact Bool.false_ne_true)]
    exact ⟨rfl, rfl⟩
  | _ => exact ⟨rfl, rfl⟩

theorem declares_of_handsOut {s : Scope} {r : Request} {v : Variable}
    (h : r.handsOut (s.step r).1 = some v) : s.Declares r v := by
  obtain ⟨w, hw, e, -⟩ | ⟨e, -⟩ := step_cases s r
  · obtain rfl := Option.some.inj (e.symm.trans h)
    exact hw
  · rw [h] at e
    cases e

theorem declares_of_mem {rs : List Request} {s : Scope} {v : Variable}
    (h : v ∈ (s.run rs).2.table) :
    v ∈ s.table ∨ ∃ n r, rs[n]? = some r ∧ (s.run (rs.take n)).2.Declares r v := by
  induction rs generalizing s with
  | nil => exact .inl h
  | cons q rs ih =>
    rw [run_cons] at h
    rcases ih h with hv | ⟨n, r, hr, hv⟩
    · obtain ⟨w, hw, -, ht⟩ | ⟨-, ht⟩ := step_cases s q
      · rw [ht, List.mem_append, List.mem_singleton] at hv
        rcases hv with hv | rfl
        · exact .inl hv
        · exact .inr ⟨0, q, rfl, hw⟩
      · rw [ht] at hv
        exact .inl hv
    · exact .inr ⟨n + 1, r, hr, hv⟩

theorem mem_table_of_declares {rs : List Request} {s : Scope} {n : Nat} {r : Request}
    {v : Variable} (hr : rs[n]? = some r) (h : (s.run (rs.take n)).2.Declares r v) :
    v ∈ (s.run rs).2.table := by
  have hsplit : rs.take n ++ r :: rs.drop (n + 1) = rs := by
    obtain ⟨hlt, rfl⟩ := List.getElem?_eq_some_iff.mp hr
    rw [List.getElem_cons_drop, List.take_append_drop]
  rw [← hsplit, run_append, run_cons, run_table, h.step.2]
  exact List.mem_append_left _ (List.mem_append_right _ (List.mem_singleton_self v))

/-! ## the receiver -/

theorem Declares.isThis_iff {s : Scope} {r : Request} {v : Variable} (h : s.Declares r v) :
    v.isThis = true ↔ ∃ ty, r = .declareThis ty := by
  cases h with
  | declareThis ty fresh => exact ⟨fun _ => ⟨ty, rfl⟩, fun _ => rfl⟩
  | declareParameter index ty fresh =>
    refine ⟨fun h => ?_, fun ⟨t, e⟩ => Request.noConfusion e⟩
    have hlt : Int32.ofNat index.toNat < 0 := of_decide_eq_true (Bool.and_eq_true_iff.mp h).2
    rw [Int32.lt_iff_toInt_lt, toInt_parameterIndex] at hlt
    have hzero : (0 : Int32).toInt = 0 := rfl
    omega
  | _ => exact ⟨fun h => Bool.noConfusion h, fun ⟨t, e⟩ => Request.noConfusion e⟩

/-- The request at position `n` of the run declared `v` as the receiver. -/
def ReceiverAt (rs : List Request) (n : Nat) (v : Variable) : Prop :=
  ∃ ty, rs[n]? = some (.declareThis ty) ∧ (new.run rs).1[n]? = some (.var v)

theorem receiverAt_iff {rs : List Request} {n : Nat} {v : Variable} :
    ReceiverAt rs n v ↔
      ∃ ty, rs[n]? = some (.declareThis ty) ∧
        (new.run (rs.take n)).2.Declares (.declareThis ty) v := by
  constructor
  · rintro ⟨ty, hr, ha⟩
    rw [run_getElem? hr] at ha
    refine ⟨ty, hr, declares_of_handsOut ?_⟩
    rw [Option.some.inj ha]
    rfl
  · rintro ⟨ty, hr, hv⟩
    refine ⟨ty, hr, ?_⟩
    rw [run_getElem? hr, hv.step.1]

/-- The receiver is a variable of the scope, without a name. -/
theorem ReceiverAt.mem_table {rs : List Request} {n : Nat} {v : Variable} (h : ReceiverAt rs n v) :
    v ∈ (new.run rs).2.table ∧ v.name = none := by
  obtain ⟨ty, hr, hv⟩ := receiverAt_iff.mp h
  refine ⟨mem_table_of_declares hr hv, ?_⟩
  cases hv
  rfl

/-- A variable of the scope is taken for the receiver exactly if it was declared as the receiver. -/
theorem isThis_iff {rs : List Request} {v : Variable} (hv : v ∈ (new.run rs).2.table) :
    v.isThis = true ↔ ∃ n, ReceiverAt rs n v := by
  constructor
  · intro h
    rcases declares_of_mem hv with hnone | ⟨n, r, hr, hd⟩
    · cases hnone
    · obtain ⟨ty, rfl⟩ := hd.isThis_iff.mp h
      exact ⟨n, receiverAt_iff.mpr ⟨ty, hr, hd⟩⟩
  · rintro ⟨n, h⟩
    obtain ⟨ty, -, hd⟩ := receiverAt_iff.mp h
    exact hd.isThis_iff.mpr ⟨ty, rfl⟩

/-- After the first declaration of the receiver every other one is refused. -/
theorem ReceiverAt.not_lt {rs : List Request} {n m : Nat} {v w : Variable}
    (hn : ReceiverAt rs n v) (hm : ReceiverAt rs m w) : ¬ n < m := by
  intro hlt
  obtain ⟨ty, hr, -⟩ := hn
  obtain ⟨ty', -, hd⟩ := receiverAt_iff.mp hm
  have hasked : Variable.thisIndex ∈ (asked (rs.take m)).map Prod.fst := by
    refine mem_asked.mpr ⟨.declareThis ty, List.mem_of_getElem? (i := n) ?_, ty, rfl⟩
    rw [List.getElem?_take_of_lt hlt, hr]
  have htaken := (recalls_run (rs.take m)).hasParameter.mpr hasked
  cases hd with
  | declareThis _ fresh =>
    rw [fresh] at htaken
    cases htaken

/-- A scope has one receiver at most. -/
theorem ReceiverAt.unique {rs : List Request} {n m : Nat} {v w : Variable}
    (hn : ReceiverAt rs n v) (hm : ReceiverAt rs m w) : n = m ∧ v = w := by
  have e : n = m := Nat.le_antisymm (Nat.not_lt.mp (hm.not_lt hn)) (Nat.not_lt.mp (hn.not_lt hm))
  subst e
  obtain ⟨-, -, ha⟩ := hn
  obtain ⟨-, -, hb⟩ := hm
  rw [ha] at hb
  cases hb
  exact ⟨rfl, rfl⟩

/-- A scope has a receiver if a request asked for one. -/
theorem exists_receiverAt {rs : List Request} :
    (∃ n v, ReceiverAt rs n v) ↔ ∃ ty, .declareThis ty ∈ rs := by
  constructor
  · rintro ⟨n, v, ty, hr, -⟩
    exact ⟨ty, List.mem_of_getElem? hr⟩
  · rintro ⟨ty, h⟩
    have htaken := (recalls_run rs).hasParameter.mpr (mem_asked.mpr ⟨_, h, ty, rfl⟩)
    obtain ⟨v, hv, e⟩ := List.any_eq_true.mp htaken
    have hthis : v.isThis = true := by
      obtain ⟨hk, hi⟩ := Bool.and_eq_true_iff.mp e
      rw [Variable.isThis, hk, beq_iff_eq.mp hi]
      rfl
    obtain ⟨n, hn⟩ := (isThis_iff hv).mp hthis
    exact ⟨n, v, hn⟩

end Scope

end ILTree
