import ILTree.Inst.Children

/-!
# Going down a tree

* `size_lt_of_child`     an operand is smaller than the instruction;
* `Below c i`            `c` is at the end of a path from `i` that is not empty;
* `Below.size_lt`        what is below is smaller;
* `below_wellFounded`    so no descent goes on for ever.
-/

namespace ILTree.Inst

/-! ## sizes -/

theorem foldr_add_pos (ns : List Nat) : 0 < ns.foldr (· + ·) 1 := by
  induction ns with
  | nil => exact Nat.one_pos
  | cons n ns ih =>
    rw [List.foldr_cons]
    omega

theorem lt_foldr_add {n : Nat} {ns : List Nat} (h : n ∈ ns) : n < ns.foldr (· + ·) 1 := by
  induction ns with
  | nil => cases h
  | cons m ns ih =>
    rw [List.foldr_cons]
    rcases List.mem_cons.mp h with rfl | h
    · have hpos := foldr_add_pos ns
      omega
    · have hlt := ih h
      omega

theorem size_lt_of_child {c i : Inst} (h : c ∈ i.children) : c.size < i.size := by
  rw [size_eq i]
  exact lt_foldr_add (List.mem_map_of_mem h)

/-! ## descents -/

/-- The first step of a path leads to a child. -/
theorem descend_cons {n : Nat} {path : List Nat} {c i : Inst} (h : descend (n :: path) i = some c) :
    ∃ j ∈ i.children, descend path j = some c := by
  obtain ⟨j, hj, hc⟩ := Option.bind_eq_some_iff.mp h
  exact ⟨j, List.mem_of_getElem? hj, hc⟩

theorem size_le_of_descend {path : List Nat} {c i : Inst} (h : descend path i = some c) :
    c.size ≤ i.size := by
  induction path generalizing i with
  | nil =>
    obtain rfl := Option.some.inj h
    exact Nat.le_refl _
  | cons n path ih =>
    obtain ⟨j, hj, hc⟩ := descend_cons h
    exact Nat.le_of_lt (Nat.lt_of_le_of_lt (ih hc) (size_lt_of_child hj))

/-- at the end of a path that goes down at least once -/
def Below (c i : Inst) : Prop := ∃ path, path ≠ [] ∧ descend path i = some c

theorem Below.size_lt {c i : Inst} (h : Below c i) : c.size < i.size := by
  obtain ⟨path, hne, hc⟩ := h
  cases path with
  | nil => exact absurd rfl hne
  | cons n path =>
    obtain ⟨j, hj, hc⟩ := descend_cons hc
    exact Nat.lt_of_le_of_lt (size_le_of_descend hc) (size_lt_of_child hj)

theorem Below.ne {c i : Inst} (h : Below c i) : c ≠ i := by
  rintro rfl
  exact Nat.lt_irrefl _ h.size_lt

theorem below_wellFounded : WellFounded Below :=
  Subrelation.wf Below.size_lt (measure size).wf

end ILTree.Inst
