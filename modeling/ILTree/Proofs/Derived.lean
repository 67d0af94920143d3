import Mathlib.Data.List.Induction
import Mathlib.Data.List.Sort
import Mathlib.Order.RelIso.Basic
import ILTree.Ascending
import ILTree.Proofs.Scope.Parameters

/-!
# Names, order and equality

Besides their operations, the small types are told by name, kept in ascending lists and counted.

* `Vocabulary.ofName?_eq_some`   a name is read back as the one member that has it;
* `Ty.ofName?_dump`        a plain type is read back from the way it is spelled out, no other is;
* `eq_ascending_iff`       the one ascending list with the members of a list, where `<` is a strict
                           total order, as it is on tokens, blocks and ids;
* `Variable.countDistinct_concat`   one more variable counts if none before it is the same;
* `Scope.countDistinct_table`       the variables of one scope all count.
-/

namespace ILTree

/-! ## names -/

/-- Where names are all different, at most one member of a list is found by name. -/
theorem find?_name_eq_some {α : Type} {name : α → String} {xs : List α}
    (h : (xs.map name).Nodup) {s : String} {x : α} :
    xs.find? (fun y => name y == s) = some x ↔ x ∈ xs ∧ name x = s := by
  have hfound (y : α) (hy : xs.find? (fun y => name y == s) = some y) : y ∈ xs ∧ name y = s :=
    ⟨List.mem_of_find?_eq_some hy, by simpa using List.find?_some hy⟩
  refine ⟨hfound x, fun hx => ?_⟩
  obtain ⟨hmem, hname⟩ := hx
  have hsome : (xs.find? fun y => name y == s).isSome = true :=
    List.find?_isSome.mpr ⟨x, hmem, beq_iff_eq.mpr hname⟩
  obtain ⟨y, hy⟩ := Option.isSome_iff_exists.mp hsome
  obtain ⟨hymem, hyname⟩ := hfound y hy
  rw [hy, List.inj_on_of_nodup_map h hymem hmem (hyname.trans hname.symm)]

theorem Vocabulary.ofName?_eq_some {α : Type} [Vocabulary α] {s : String} {x : α} :
    ofName? s = some x ↔ name x = s := by
  unfold ofName?
  rw [find?_name_eq_some distinct, and_iff_right (complete x)]

namespace Ty

theorem ofName?_eq_some {s : String} {t : Ty} : ofName? s = some t ↔ t ∈ plain ∧ t.dump = s :=
  find?_name_eq_some (by decide)

/-- Only what has parts is spelled with a parenthesis. -/
theorem mem_plain_iff (t : Ty) : t ∈ plain ↔ '(' ∉ t.dump.toList := by
  have hplain : ∀ u ∈ plain, '(' ∉ u.dump.toList := by decide
  have htuple (name : String) (parts : List String) :
      '(' ∈ (Structured.tuple name parts).toList := by
    simp [Structured.tuple]
  refine ⟨hplain t, fun h => ?_⟩
  cases t with
  | classType | valueType | array | pointer | byRef | genericParam | methodGenericParam =>
    exact absurd (htuple _ _) h
  | _ => decide

theorem ofName?_dump (t : Ty) : ofName? t.dump = if t ∈ plain then some t else none := by
  by_cases h : t ∈ plain
  · rw [if_pos h]
    exact ofName?_eq_some.mpr ⟨h, rfl⟩
  · rw [if_neg h, Option.eq_none_iff_forall_ne_some]
    intro u hu
    obtain ⟨hplain, hdump⟩ := ofName?_eq_some.mp hu
    rw [mem_plain_iff, hdump, ← mem_plain_iff] at hplain
    exact h hplain

end Ty

/-! ## order -/

/-- an order by a number that no two have in common -/
theorem isStrictTotalOrder_of_number {α : Type} [LT α] (number : α → Nat)
    (hinj : Function.Injective number) (hlt : ∀ a b, a < b ↔ number a < number b) :
    IsStrictTotalOrder α (· < ·) :=
  RelEmbedding.isStrictTotalOrder (s := (· < ·)) ⟨⟨number, hinj⟩, (hlt _ _).symm⟩

instance : IsStrictTotalOrder Token (· < ·) :=
  isStrictTotalOrder_of_number (fun t => t.raw.toNat)
    (fun _ _ h => congrArg Token.mk (UInt32.toNat_inj.mp h)) fun _ _ => UInt32.lt_iff_toNat_lt

instance : IsStrictTotalOrder Block (· < ·) :=
  isStrictTotalOrder_of_number (fun b => b.id.toNat)
    (fun _ _ h => congrArg Block.mk (UInt32.toNat_inj.mp h)) fun _ _ => UInt32.lt_iff_toNat_lt

instance : IsStrictTotalOrder VariableId (· < ·) :=
  isStrictTotalOrder_of_number VariableId.index
    (fun _ _ h => congrArg VariableId.mk h) fun _ _ => Iff.rfl

section
variable {α : Type} [LT α] [DecidableLT α] [IsStrictTotalOrder α (· < ·)]

theorem mem_insertAscending {x z : α} {ys : List α} :
    z ∈ insertAscending x ys ↔ z = x ∨ z ∈ ys := by
  induction ys with
  | nil => exact List.mem_cons
  | cons y ys ih =>
    unfold insertAscending
    by_cases hxy : x < y
    · rw [if_pos hxy, List.mem_cons]
    · rw [if_neg hxy]
      by_cases hyx : y < x
      · rw [if_pos hyx, List.mem_cons, ih, List.mem_cons]
        exact or_left_comm
      · obtain rfl : x = y := Std.Trichotomous.trichotomous x y hxy hyx
        rw [if_neg hyx, List.mem_cons, or_self_left]

theorem pairwise_insertAscending (x : α) {ys : List α} (h : ys.Pairwise (· < ·)) :
    (insertAscending x ys).Pairwise (· < ·) := by
  induction ys with
  | nil => exact List.pairwise_singleton _ _
  | cons y ys ih =>
    obtain ⟨hy, hys⟩ := List.pairwise_cons.mp h
    unfold insertAscending
    by_cases hxy : x < y
    · rw [if_pos hxy]
      refine List.pairwise_cons.mpr ⟨fun z hz => ?_, h⟩
      rcases List.mem_cons.mp hz with rfl | hz
      · exact hxy
      · exact trans_of (· < ·) hxy (hy z hz)
    · rw [if_neg hxy]
      by_cases hyx : y < x
      · rw [if_pos hyx]
        refine List.pairwise_cons.mpr ⟨fun z hz => ?_, ih hys⟩
        rcases mem_insertAscending.mp hz with rfl | hz
        · exact hyx
        · exact hy z hz
      · rw [if_neg hyx]
        exact h

theorem mem_ascending {z : α} {xs : List α} : z ∈ ascending xs ↔ z ∈ xs := by
  induction xs with
  | nil => rfl
  | cons x xs ih =>
    show z ∈ insertAscending x (ascending xs) ↔ z ∈ x :: xs
    rw [mem_insertAscending, ih, List.mem_cons]

theorem pairwise_ascending (xs : List α) : (ascending xs).Pairwise (· < ·) := by
  induction xs with
  | nil => exact .nil
  | cons x xs ih => exact pairwise_insertAscending x ih

/-- **Sorting without repetitions.**  There is one ascending list with the members of a list. -/
theorem eq_ascending_iff {xs ys : List α} :
    ys = ascending xs ↔ ys.Pairwise (· < ·) ∧ ∀ z, z ∈ ys ↔ z ∈ xs := by
  refine ⟨fun e => ?_, fun ⟨hys, hmem⟩ => ?_⟩
  · rw [e]
    exact ⟨pairwise_ascending xs, fun z => mem_ascending⟩
  · exact hys.eq_of_mem_iff (pairwise_ascending xs) fun z => (hmem z).trans mem_ascending.symm

end

/-! ## equality -/

namespace Variable

theorem countDistinct_concat (vs : List Variable) (v : Variable) :
    countDistinct (vs ++ [v]) = countDistinct vs + if vs.any (·.same v) then 0 else 1 := by
  have hany : v.id ∈ vs.map (fun w => w.id) ↔ vs.any (·.same v) = true := by
    simp only [List.mem_map, List.any_eq_true, same_iff]
  unfold countDistinct
  rw [List.map_append, List.map_singleton, eraseDups_concat]
  by_cases h : vs.any (·.same v) = true
  · rw [if_pos (hany.mpr h), if_pos h, Nat.add_zero]
  · rw [if_neg (hany.not.mpr h), if_neg h, List.length_append, List.length_singleton]

/-- variables that are different from each other all count -/
theorem countDistinct_of_pairwise {vs : List Variable}
    (h : vs.Pairwise fun v w => v.same w = false) : countDistinct vs = vs.length := by
  induction vs using List.reverseRecOn with
  | nil => rfl
  | append_singleton vs v ih =>
    obtain ⟨hvs, -, hv⟩ := List.pairwise_append.mp h
    have hnone : ¬ vs.any (·.same v) = true := by
      intro hany
      obtain ⟨w, hw, hsame⟩ := List.any_eq_true.mp hany
      rw [hv w hw v (List.mem_singleton_self v)] at hsame
      cases hsame
    rw [countDistinct_concat, if_neg hnone, ih hvs, List.length_append, List.length_singleton]

end Variable

theorem Scope.countDistinct_table (rs : List Request) :
    Variable.countDistinct (new.run rs).2.table = (new.run rs).2.table.length :=
  Variable.countDistinct_of_pairwise (positional_run rs).pairwise

end ILTree
