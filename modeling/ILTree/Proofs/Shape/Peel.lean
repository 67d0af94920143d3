import ILTree.Proofs.Inst.Descent
import ILTree.Shape.Peel

/-!
# How far peeling goes

* `Inst.layers k`        how many unchecked conversions of kind `k` are on top of one another at the
                         root;
* `descend_peel`         peeling goes down so many first operands;
* `peel_eq_self_iff`     it leaves an instruction as it is exactly if there are none;
* `Inst.IsLayer k`       the root is an unchecked conversion of kind `k` (`isLayer_iff_head`);
* `Inst.wrap k ts r`     `r` under such conversions, to any target types;
* `peel_maximal`         every instruction is what is left of it so wrapped, in one way only.
-/

namespace ILTree.Inst

def layers (k : Conversion) : Inst → Nat
  | conv x j _ false => if j = k then x.layers k + 1 else 0
  | _ => 0

/-- By induction along the peeling: each layer is one step to the operand. -/
theorem descend_peel (k : Conversion) (i : Inst) :
    descend (List.replicate (i.layers k) 0) i = some (i.peel k) := by
  fun_induction peel k i with
  | case1 x t ih =>
    rw [layers, if_pos rfl, List.replicate_succ]
    exact ih
  | case2 x j t h =>
    rw [layers, if_neg h]
    rfl
  | case3 i h =>
    have hnone : i.layers k = 0 := by
      unfold layers
      split
      next x j t => exact (h x j t rfl).elim
      next => rfl
    rw [hnone]
    rfl

theorem below_peel {k : Conversion} {i : Inst} (h : i.layers k ≠ 0) : Below (i.peel k) i :=
  ⟨List.replicate (i.layers k) 0, mt (List.replicate_eq_nil_iff 0).mp h, descend_peel k i⟩

theorem peel_eq_self_iff {k : Conversion} {i : Inst} : i.peel k = i ↔ i.layers k = 0 := by
  constructor
  · intro h
    exact Decidable.by_contra fun hne => (below_peel hne).ne h
  · intro h
    have hpeel := descend_peel k i
    rw [h] at hpeel
    exact (Option.some.inj hpeel).symm

/-! ## layers -/

/-- `i` is `x` under an unchecked conversion of kind `k` -/
def Layer (k : Conversion) (x i : Inst) : Prop := ∃ t, i = x.convert k t

/-- the root is an unchecked conversion of kind `k` -/
def IsLayer (k : Conversion) (i : Inst) : Prop := ∃ x, Layer k x i

/-- `r` under unchecked conversions of kind `k`, the first of the target types outermost -/
def wrap (k : Conversion) (ts : List StackType) (r : Inst) : Inst :=
  ts.foldr (fun t x => x.convert k t) r

section
variable {k : Conversion} {i r : Inst}

/-- Taking off one layer after another comes to an end. -/
theorem layer_wellFounded (k : Conversion) : WellFounded (Layer k) := by
  refine Subrelation.wf ?_ (measure size).wf
  rintro x _ ⟨t, rfl⟩
  exact size_lt_of_child List.mem_cons_self

theorem layers_eq_zero_iff : i.layers k = 0 ↔ ¬ IsLayer k i := by
  constructor
  · rintro h ⟨x, t, rfl⟩
    rw [convert, layers, if_pos rfl] at h
    cases h
  · intro h
    unfold layers
    split
    next x j t =>
      refine if_neg ?_
      rintro rfl
      exact h ⟨x, t, rfl⟩
    next => rfl

theorem isLayer_iff_head : IsLayer k i ↔ ∃ t, i.head = .conv k t false := by
  constructor
  · rintro ⟨x, t, rfl⟩
    exact ⟨t, rfl⟩
  · rintro ⟨t, h⟩
    cases i with
    | conv x j u ovf =>
      obtain ⟨rfl, rfl, rfl⟩ := Head.conv.inj h
      exact ⟨x, u, rfl⟩
    | _ => cases h

/-- Whether there is anything to peel off can be told from the root. -/
theorem peel_eq_self_iff_head : i.peel k = i ↔ ¬ ∃ t, i.head = .conv k t false := by
  rw [peel_eq_self_iff, layers_eq_zero_iff, isLayer_iff_head]

theorem peel_of_not_isLayer (h : ¬ IsLayer k i) : i.peel k = i :=
  peel_eq_self_iff.mpr (layers_eq_zero_iff.mpr h)

/-- What is left has no layer, and the layers taken off make the instruction again. -/
theorem exists_wrap_peel (k : Conversion) (i : Inst) :
    (∃ ts, i = wrap k ts (i.peel k)) ∧ ¬ IsLayer k (i.peel k) := by
  fun_induction peel k i with
  | case1 x t ih =>
    obtain ⟨⟨ts, hts⟩, hnone⟩ := ih
    exact ⟨⟨t :: ts, congrArg (fun y => convert y k t) hts⟩, hnone⟩
  | case2 x j t h =>
    refine ⟨⟨[], rfl⟩, ?_⟩
    rintro ⟨y, u, e⟩
    exact h (Inst.conv.inj e).2.1
  | case3 i h =>
    refine ⟨⟨[], rfl⟩, ?_⟩
    rintro ⟨y, u, e⟩
    exact h y k u e

theorem peel_wrap (h : ¬ IsLayer k r) (ts : List StackType) : (wrap k ts r).peel k = r := by
  induction ts with
  | nil => exact peel_of_not_isLayer h
  | cons t ts ih =>
    show ((wrap k ts r).convert k t).peel k = r
    rw [convert, peel, if_pos rfl, ih]

theorem peel_eq_iff : i.peel k = r ↔ (∃ ts, i = wrap k ts r) ∧ ¬ IsLayer k r := by
  constructor
  · rintro rfl
    exact exists_wrap_peel k i
  · rintro ⟨⟨ts, rfl⟩, h⟩
    exact peel_wrap h ts

/-- Neither a checked conversion nor one of another kind is a layer. -/
theorem not_isLayer_conv {x : Inst} {j : Conversion} {t : StackType} {ovf : Bool}
    (h : j ≠ k ∨ ovf = true) : ¬ IsLayer k (conv x j t ovf) := by
  rintro ⟨y, u, e⟩
  obtain ⟨-, hk, -, hovf⟩ := Inst.conv.inj e
  rcases h with h | h
  · exact h hk
  · rw [hovf] at h
    cases h

end

/-- **Peeling is maximal.**  Layers come off one by one, and only finitely many times.  What is
left of an instruction is the one instruction without a layer from which layers, with any target
types, make it again; so from such an instruction under any layers it is got back, and peeling once
more changes nothing.  A checked conversion and one of another kind are never crossed, whatever is
below them.  An instruction stays as it is exactly if its root is no layer. -/
theorem peel_maximal (k : Conversion) :
    WellFounded (Layer k) ∧
    (∀ i r : Inst, i.peel k = r ↔ (∃ ts, i = wrap k ts r) ∧ ¬ IsLayer k r) ∧
    (∀ r : Inst, ¬ IsLayer k r → ∀ ts, (wrap k ts r).peel k = r) ∧
    (∀ i : Inst, (i.peel k).peel k = i.peel k) ∧
    (∀ (ts : List StackType) (x : Inst) (j : Conversion) (t : StackType) (ovf : Bool),
      j ≠ k ∨ ovf = true → (wrap k ts (conv x j t ovf)).peel k = conv x j t ovf) ∧
    (∀ i : Inst, i.peel k = i ↔ ¬ IsLayer k i) :=
  ⟨layer_wellFounded k, fun _ _ => peel_eq_iff, fun _ h ts => peel_wrap h ts,
    fun i => peel_of_not_isLayer (exists_wrap_peel k i).2,
    fun ts _ _ _ _ h => peel_wrap (not_isLayer_conv h) ts,
    fun _ => peel_eq_self_iff.trans layers_eq_zero_iff⟩

/-- two layers over a checked conversion, and a third layer that is below it -/
theorem peel_maximal_checked :
    let checked : Inst := .conv (.convert (.constI4 5) .nop .i4) .nop .i8 true
    let i := wrap .nop [.i4, .o] checked
    i.peel .nop = checked ∧ ¬ IsLayer .nop checked ∧ i ≠ i.peel .nop := by
  intro checked i
  obtain ⟨-, hunique, -, -, hchecked, hself⟩ := peel_maximal .nop
  have hpeel : i.peel .nop = checked := hchecked [.i4, .o] _ .nop .i8 true (.inr rfl)
  exact ⟨hpeel, ((hunique i checked).mp hpeel).2,
    fun e => (hself i).mp e.symm ⟨_, .i4, rfl⟩⟩

end ILTree.Inst
