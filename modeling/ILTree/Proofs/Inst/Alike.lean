import Mathlib.Data.List.Forall2
import ILTree.Inst.Same
import ILTree.Proofs.Inst.Similar

/-!
# Instructions that compare as the same

Sameness of trees is defined on heads and children.  A proof about two instructions that are the
same does better with one rule for each shape than with all pairs of shapes.

* `AllSame is js`   two lists of instructions are the same one by one;
* `same_iff`        the same heads, and the same children one by one;
* `similar_of_same`   instructions that are the same look alike, and so do their operands.
-/

namespace ILTree

theorem Head.opcode_of_same {a b : Head} (h : a.same b = true) : a.opcode = b.opcode := by
  unfold Head.same at h
  split at h
  case h_6 => rw [beq_iff_eq.mp h]
  all_goals rfl

namespace Inst

/-- as many, and the same in each place -/
def AllSame : List Inst → List Inst → Prop := List.Forall₂ fun x y => x.same y = true

theorem agree_iff (is js : List Inst) : agree (is.map same) js = true ↔ AllSame is js := by
  induction is generalizing js with
  | nil => cases js <;> simp [agree, AllSame]
  | cons i is ih => cases js <;> simp_all [agree, AllSame]

theorem same_iff (a b : Inst) :
    a.same b = true ↔ a.head.same b.head = true ∧ AllSame a.children b.children := by
  rw [same_eq, Bool.and_eq_true, agree_iff]

/-- the same as trees -/
def IsSame (x y : Inst) : Prop := x.same y = true

/-- By cases on pairs of shapes; different shapes have different opcodes. -/
theorem similar_of_same {a b : Inst} (h : a.same b = true) :
    Similar (fun v w => v.same w = true) IsSame a b := by
  obtain ⟨hh, hc⟩ := (same_iff a b).mp h
  have ho : a.opcode = b.opcode := Head.opcode_of_same hh
  cases a <;> cases b <;> try cases ho
  all_goals
    simp only [head, Head.same, children, AllSame, List.forall₂_cons, List.Forall₂.nil, and_true,
      beq_iff_eq] at hh hc
  case nop.nop => exact .nop
  case constI4.constI4 => cases hh; exact .constI4 _
  case constI8.constI8 => cases hh; exact .constI8 _
  case constF8.constF8 => exact .constF8 _ _
  case constNull.constNull => exact .constNull
  case constString.constString => cases hh; exact .constString _
  case loadLocal.loadLocal => exact .loadLocal hh
  case loadLocalAddr.loadLocalAddr => exact .loadLocalAddr hh
  case storeLocal.storeLocal => exact .storeLocal hh hc
  case arrayLength.arrayLength => cases hh; exact .arrayLength _ hc
  case leave.leave => cases hh; exact .leave _ hc
  case branch.branch => cases hh; exact .branch _
  case ifElse.ifElse => exact .ifElse hc.1 hc.2.1 hc.2.2
  case logicNot.logicNot => exact .logicNot hc
  case compare.compare => cases hh; exact .compare _ _ hc.1 hc.2
  case catchHandler.catchHandler => exact .catchHandler hh hc.1 hc.2
  case loadIndirect.loadIndirect => cases hh; exact .loadIndirect _ hc
  case storeIndirect.storeIndirect => cases hh; exact .storeIndirect _ hc.1 hc.2
  case loadFieldAddr.loadFieldAddr => cases hh; exact .loadFieldAddr _ hc
  case loadStaticFieldAddr.loadStaticFieldAddr => cases hh; exact .loadStaticFieldAddr _
  case loadElementAddr.loadElementAddr => cases hh; exact .loadElementAddr _ _ _ _ _
  case binaryNumeric.binaryNumeric => cases hh; exact .binaryNumeric _ _ _ hc.1 hc.2
  case conv.conv => cases hh; exact .conv _ _ _ hc
  case call.call => cases hh; exact .call _ _ _
  case throw.throw => exact .throw hc

end Inst

end ILTree
