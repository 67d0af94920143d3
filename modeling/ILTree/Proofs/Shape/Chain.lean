import ILTree.Proofs.Shape.Peel

/-!
# Peeling one kind after another

Peeling one kind of conversion stops at the first conversion of another kind, so what is left after
two kinds depends on which of them came first.  All orders agree once nothing more comes off.

* `Chain i n c`        `c` stands `n` operands below `i`, and what is passed on the way down are
                       unchecked conversions of any kinds;
* `Core i r`           `r` is the first instruction on the way that is no such conversion;
* `Inst.peelAll ks`    peels the kinds `ks`, the first of them first;
* `Settled i`          no kind peels anything off;
* `peelAll_confluent`  peeling goes down the chain, and whatever settles has come to the core.
-/

namespace ILTree.Inst

/-! ## chains of conversions -/

/-- the root is an unchecked conversion of some kind -/
def IsUnchecked (i : Inst) : Prop := ∃ k, IsLayer k i

inductive Chain : Inst → Nat → Inst → Prop where
  | here (i : Inst) : Chain i 0 i
  | down {x c : Inst} {n : Nat} (k : Conversion) (t : StackType) (h : Chain x n c) :
      Chain (x.convert k t) (n + 1) c

/-- the end of the chain -/
def Core (i r : Inst) : Prop := (∃ n, Chain i n r) ∧ ¬ IsUnchecked r

theorem isUnchecked_convert (x : Inst) (k : Conversion) (t : StackType) :
    IsUnchecked (x.convert k t) := ⟨k, x, t, rfl⟩

section
variable {i x c d r : Inst} {m n : Nat}

theorem Chain.trans (h : Chain i m c) (h' : Chain c n d) : Chain i (m + n) d := by
  induction h with
  | here i =>
    rw [Nat.zero_add]
    exact h'
  | @down x c m k t _ ih =>
    have hd : Chain (x.convert k t) (m + n + 1) d := .down k t (ih h')
    have e : m + 1 + n = m + n + 1 := by omega
    rw [e]
    exact hd

/-- Each conversion passed is one step to its operand. -/
theorem Chain.descend (h : Chain i n c) : descend (List.replicate n 0) i = some c := by
  induction h with
  | here i => rfl
  | down k t _ ih =>
    rw [List.replicate_succ]
    exact ih

theorem Chain.size_eq (h : Chain i n c) : i.size = c.size + n := by
  induction h with
  | here i => rfl
  | @down x c n k t _ ih =>
    have hsize : (x.convert k t).size = x.size + 1 := Inst.size_eq (x.convert k t)
    omega

/-- An instruction stands on the chain in one place only. -/
theorem Chain.number_unique (h : Chain i m c) (h' : Chain i n c) : m = n := by
  have hm := h.size_eq
  have hn := h'.size_eq
  omega

theorem Core.unique (h : Core i r) (h' : Core i d) : r = d := by
  obtain ⟨⟨m, hm⟩, hr⟩ := h
  obtain ⟨⟨n, hn⟩, hd⟩ := h'
  induction hm generalizing n with
  | here i =>
    cases hn with
    | here => rfl
    | down k t _ => exact absurd (isUnchecked_convert _ k t) hr
  | down k t _ ih =>
    cases hn with
    | here => exact absurd (isUnchecked_convert _ k t) hd
    | @down _ _ n _ _ hn => exact ih hr n hn

end

/-! ## one kind -/

section
variable {i : Inst} {k j : Conversion}

/-- Peeling passes as many conversions as there are layers. -/
theorem chain_peel (k : Conversion) (i : Inst) : Chain i (i.layers k) (i.peel k) := by
  fun_induction peel k i with
  | case1 x t ih =>
    rw [layers, if_pos rfl]
    exact .down k t ih
  | case2 x j t h =>
    rw [layers, if_neg h]
    exact .here _
  | case3 i h =>
    have hnone : i.layers k = 0 := by
      rw [layers_eq_zero_iff]
      rintro ⟨x, t, rfl⟩
      exact h x k t rfl
    rw [hnone]
    exact .here i

theorem isLayer_of_peel_ne (h : i.peel k ≠ i) : IsLayer k i := by
  by_cases hlayer : IsLayer k i
  · exact hlayer
  · exact absurd (peel_of_not_isLayer hlayer) h

/-- The root has one kind, so no other kind finds anything to peel there. -/
theorem eq_of_peel_ne (h : i.peel k ≠ i) (h' : i.peel j ≠ i) : k = j := by
  obtain ⟨x, t, rfl⟩ := isLayer_of_peel_ne h
  obtain ⟨y, u, e⟩ := isLayer_of_peel_ne h'
  exact (Inst.conv.inj e).2.1

end

/-! ## one kind after the other -/

def peelAll (ks : List Conversion) (i : Inst) : Inst := ks.foldl (fun j k => j.peel k) i

def Settled (i : Inst) : Prop := ∀ k, i.peel k = i

section
variable {i : Inst} {ks js : List Conversion}

theorem peelAll_append (ks js : List Conversion) (i : Inst) :
    i.peelAll (ks ++ js) = (i.peelAll ks).peelAll js := List.foldl_append

/-- By induction on the kinds: each kind goes on from where the one before it has stopped. -/
theorem exists_chain_peelAll (ks : List Conversion) (i : Inst) : ∃ n, Chain i n (i.peelAll ks) := by
  induction ks generalizing i with
  | nil => exact ⟨0, .here i⟩
  | cons k ks ih =>
    obtain ⟨n, hn⟩ := ih (i.peel k)
    exact ⟨i.layers k + n, (chain_peel k i).trans hn⟩

theorem settled_iff : Settled i ↔ ¬ IsUnchecked i := by
  have hkind (k : Conversion) : i.peel k = i ↔ ¬ IsLayer k i :=
    peel_eq_self_iff.trans layers_eq_zero_iff
  rw [IsUnchecked, not_exists]
  exact forall_congr' hkind

theorem core_of_settled (h : Settled (i.peelAll ks)) : Core i (i.peelAll ks) :=
  ⟨exists_chain_peelAll ks i, settled_iff.mp h⟩

/-- As long as some kind finds anything to peel, it leads further down. -/
theorem exists_settled (i : Inst) : ∃ ks, Settled (i.peelAll ks) := by
  induction i using below_wellFounded.induction with
  | _ i ih =>
    by_cases h : ∃ k, i.peel k ≠ i
    · obtain ⟨k, hk⟩ := h
      have hbelow : Below (i.peel k) i := below_peel (mt peel_eq_self_iff.mpr hk)
      obtain ⟨ks, hks⟩ := ih _ hbelow
      exact ⟨k :: ks, hks⟩
    · have hnone : Settled i := fun k => Classical.not_not.mp (not_exists.mp h k)
      exact ⟨[], hnone⟩

end

/-- **Peeling several kinds does not depend on the order in the end.**  At most one kind peels
anything off an instruction.  Peeling one kind after the other stops at a place on the chain of
unchecked conversions, and peeling more kinds only goes further down; a place is a number of steps
to the operand, and no instruction stands in two places.  Peeling has settled exactly if it has
come to the core.  There is one core, so any two lists of kinds that settle lead to the same
instruction, and some list does settle. -/
theorem peelAll_confluent (i : Inst) :
    (∀ k j, i.peel k ≠ i → i.peel j ≠ i → k = j) ∧
    (∀ n c, Chain i n c → descend (List.replicate n 0) i = some c) ∧
    (∀ m n c, Chain i m c → Chain i n c → m = n) ∧
    (∀ ks js, ∃ m n, Chain i m (i.peelAll ks) ∧ Chain i (m + n) (i.peelAll (ks ++ js))) ∧
    (∀ ks, Settled (i.peelAll ks) ↔ Core i (i.peelAll ks)) ∧
    (∀ r d, Core i r → Core i d → r = d) ∧
    (∀ ks js, Settled (i.peelAll ks) → Settled (i.peelAll js) → i.peelAll ks = i.peelAll js) ∧
    (∃ ks, Settled (i.peelAll ks)) := by
  refine ⟨fun k j => eq_of_peel_ne, fun n c h => h.descend, fun m n c h h' => h.number_unique h',
    fun ks js => ?_, fun ks => ⟨core_of_settled, fun h => settled_iff.mpr h.2⟩,
    fun r d h h' => h.unique h', fun ks js h h' => ?_, exists_settled i⟩
  · obtain ⟨m, hm⟩ := exists_chain_peelAll ks i
    obtain ⟨n, hn⟩ := exists_chain_peelAll js (i.peelAll ks)
    rw [peelAll_append]
    exact ⟨m, n, hm, hm.trans hn⟩
  · exact (core_of_settled h).unique (core_of_settled h')

/-- A no-op over a sign extension over a no-op: one order of the two kinds takes off all three, the
other stops at the last one, and both get to the checked conversion below if they go on. -/
theorem peelAll_confluent_mixed :
    let r : Inst := .conv (.convert (.constI4 5) .nop .i4) .nop .i8 true
    let i : Inst := .convert (.convert (.convert r .nop .i8) .signExtend .i8) .nop .i8
    let ks := [Conversion.nop, .signExtend, .nop]
    let js := [Conversion.signExtend, .nop, .signExtend, .truncate, .nop]
    (i.peelAll [.nop, .signExtend] ≠ i.peelAll [.signExtend, .nop]) ∧
    Settled (i.peelAll ks) ∧ Settled (i.peelAll js) ∧ i.peelAll ks = i.peelAll js ∧
    Core i (i.peelAll ks) ∧ ¬ Settled i := by
  intro r i ks js
  have hr : Settled r := by
    intro k
    rfl
  obtain ⟨-, -, -, -, hcore, -, hsame, -⟩ := peelAll_confluent i
  refine ⟨?_, hr, hr, hsame ks js hr hr, (hcore ks).mp hr, ?_⟩
  · intro h
    have hkind : Conversion.nop = .signExtend := (Inst.conv.inj h).2.1
    cases hkind
  · intro h
    have hkind : Conversion.signExtend = .nop := (Inst.conv.inj (h .nop)).2.1
    cases hkind

end ILTree.Inst
