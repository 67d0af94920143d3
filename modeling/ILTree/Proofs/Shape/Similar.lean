import Mathlib.Data.List.Forall2
import ILTree.Proofs.Inst.Similar
import ILTree.Proofs.Shape.Peel
import ILTree.Proofs.Shape.Rules

/-!
# Matchers do not tell apart what looks alike

A matcher looks at the root and at its operands, and never further down.  So it treats two
instructions in the same way if they look alike and their operands do.

* `Capture.Rel V Q`    captured parts of one sort, variables related by `V`, instructions by `Q`;
* `Matcher.Blind m V R S Q`   nothing that the matcher `m` asks about tells apart what is related:
                       `R` relates operands, `S` the operands of those, `Q` what is captured;
* `run_similar`        a blind matcher gives related parts, or none of either;
* `peel_similar`       so does peeling, if one relation serves at all depths;
* `run_similar_deep`   then so do all matchers.
-/

namespace ILTree

inductive Capture.Rel (V : Variable → Variable → Prop) (Q : Inst → Inst → Prop) :
    Capture → Capture → Prop where
  | inst {i j : Inst} (h : Q i j) : Rel V Q (.inst i) (.inst j)
  | var {v w : Variable} (h : V v w) : Rel V Q (.var v) (.var w)
  | field (f : FieldRef) : Rel V Q (.field f) (.field f)
  | block (b : Block) : Rel V Q (.block b) (.block b)
  | container (c : Container) : Rel V Q (.container c) (.container c)
  | operator (op : BinaryOperator) : Rel V Q (.operator op) (.operator op)
  | int (n : Int) : Rel V Q (.int n) (.int n)
  | string (s : String) : Rel V Q (.string s) (.string s)

/-- Parts that are related one by one are equal after what the relation leaves open is put to one
value. -/
theorem map_eq_of_rel {P : Capture → Capture → Prop} {f g : Capture → Capture}
    (hP : ∀ c d, P c d → f c = g d) {x y : Option (List Capture)}
    (h : Option.Rel (List.Forall₂ P) x y) : x.map (List.map f) = y.map (List.map g) := by
  cases h with
  | none => rfl
  | some h =>
    refine congrArg some ?_
    induction h with
    | nil => rfl
    | cons hc _ ih => rw [List.map_cons, List.map_cons, hP _ _ hc, ih]

namespace Matcher
open Inst (Similar)

/-- Related variables have one id, and two matchers ask for more.  Related operands look alike. -/
structure Blind (m : Matcher) (V : Variable → Variable → Prop) (R S Q : Inst → Inst → Prop) :
    Prop where
  id_eq : ∀ {v w}, V v w → v.id = w.id
  isThis_eq : m = .isLoadOfThis → ∀ {v w}, V v w → v.isThis = w.isThis
  isReference_eq : m = .referenced → ∀ {v w}, V v w → v.isReference = w.isReference
  operand : ∀ {x y}, R x y → Similar V S x y
  captured : ∀ {x y}, R x y → Q x y
  below : ∀ {x y}, S x y → Q x y

section
variable {m : Matcher} {V : Variable → Variable → Prop} {R S Q : Inst → Inst → Prop}
  {a b : Inst} {cs : List Capture}

theorem Blind.symm (hm : m.Blind V R S Q) : m.Blind (flip V) (flip R) (flip S) (flip Q) where
  id_eq h := (hm.id_eq h).symm
  isThis_eq e _ _ h := (hm.isThis_eq e h).symm
  isReference_eq e _ _ h := (hm.isReference_eq e h).symm
  operand h := (hm.operand h).symm
  captured h := hm.captured h
  below h := hm.below h

theorem Blind.same (hm : m.Blind V R S Q) {v w u : Variable} (hv : V v w) (h : v.same u = true) :
    w.same u = true :=
  (Variable.same_iff w u).mpr ((hm.id_eq hv).symm.trans ((Variable.same_iff v u).mp h))

/-- What a rule captures, related part by part. -/
theorem captures_two {x x' y y' : Inst} (hx : Q x x') (hy : Q y y') :
    List.Forall₂ (Capture.Rel V Q) [.inst x, .inst y] [.inst x', .inst y'] :=
  .cons (.inst hx) (.cons (.inst hy) .nil)

/-- One case a rule: the rule applies to the other instruction as well.  Where it asks for two
levels, the operand is opened too. -/
theorem gives_similar (hm : m.Blind V R S Q) (hpeel : ∀ k, m ≠ .peel k) (h : Similar V R a b)
    (hg : Gives m a cs) : ∃ ds, Gives m b ds ∧ List.Forall₂ (Capture.Rel V Q) cs ds := by
  cases hg with
  | isNop => cases h with
    | nop => exact ⟨_, .isNop, .nil⟩
  | isNull => cases h with
    | constNull => exact ⟨_, .isNull, .nil⟩
  | isI4 n => cases h with
    | constI4 => exact ⟨_, .isI4 n, .nil⟩
  | isLoadOf hw => cases h with
    | loadLocal hv => exact ⟨_, .isLoadOf (hm.same hv hw), .nil⟩
  | isAddressOf hw => cases h with
    | loadLocalAddr hv => exact ⟨_, .isAddressOf (hm.same hv hw), .nil⟩
  | isReferenceTo_load hr hw => cases h with
    | loadLocal hv => exact ⟨_, .isReferenceTo_load hr (hm.same hv hw), .nil⟩
  | isReferenceTo_address hr hw => cases h with
    | loadLocalAddr hv => exact ⟨_, .isReferenceTo_address hr (hm.same hv hw), .nil⟩
  | isLoadOfThis ht => cases h with
    | loadLocal hv => exact ⟨_, .isLoadOfThis ((hm.isThis_eq rfl hv).symm.trans ht), .nil⟩
  | isBranchTo t => cases h with
    | branch => exact ⟨_, .isBranchTo t, .nil⟩
  | isVoidLeaveTo c => cases h with
    | leave _ hx => cases hm.operand hx with
      | nop => exact ⟨_, .isVoidLeaveTo c, .nil⟩
  | isStaticFieldLoad f t => cases h with
    | loadIndirect _ hx => cases hm.operand hx with
      | loadStaticFieldAddr => exact ⟨_, .isStaticFieldLoad f t, .nil⟩
  | isFieldAddress_field x f => cases h with
    | loadFieldAddr _ hx => exact ⟨_, .isFieldAddress_field _ f, .nil⟩
  | isFieldAddress_static f => cases h with
    | loadStaticFieldAddr => exact ⟨_, .isFieldAddress_static f, .nil⟩
  | isBinary op l r ovf s => cases h with
    | binaryNumeric _ _ _ hl hr => exact ⟨_, .isBinary op _ _ ovf s, .nil⟩
  | leavesFunction hc x => cases h with
    | leave _ hx => exact ⟨_, .leavesFunction hc _, .nil⟩
  | i4 n => cases h with
    | constI4 => exact ⟨_, .i4 n, .cons (.int _) .nil⟩
  | i8 n => cases h with
    | constI8 => exact ⟨_, .i8 n, .cons (.int _) .nil⟩
  | int_i8 n => cases h with
    | constI8 => exact ⟨_, .int_i8 n, .cons (.int _) .nil⟩
  | int_i4 n => cases h with
    | constI4 => exact ⟨_, .int_i4 n, .cons (.int _) .nil⟩
  | string s => cases h with
    | constString => exact ⟨_, .string s, .cons (.string s) .nil⟩
  | loaded v => cases h with
    | loadLocal hv => exact ⟨_, .loaded _, .cons (.var hv) .nil⟩
  | addressed v => cases h with
    | loadLocalAddr hv => exact ⟨_, .addressed _, .cons (.var hv) .nil⟩
  | referenced_load hr => cases h with
    | loadLocal hv =>
      rw [hm.isReference_eq rfl hv] at hr
      exact ⟨_, .referenced_load hr, .cons (.var hv) .nil⟩
  | referenced_address hr => cases h with
    | loadLocalAddr hv =>
      rw [hm.isReference_eq rfl hv] at hr
      exact ⟨_, .referenced_address hr, .cons (.var hv) .nil⟩
  | stored v x => cases h with
    | storeLocal hv hx => exact ⟨_, .stored _ _, .cons (.var hv) .nil⟩
  | storedTo hw x => cases h with
    | storeLocal hv hx =>
      exact ⟨_, .storedTo (hm.same hv hw) _, .cons (.inst (hm.captured hx)) .nil⟩
  | handled v f g => cases h with
    | catchHandler hv hf hb => exact ⟨_, .handled _ _ _, .cons (.var hv) .nil⟩
  | arrayLength t x => cases h with
    | arrayLength _ hx => exact ⟨_, .arrayLength t _, .cons (.inst (hm.captured hx)) .nil⟩
  | returned hc x => cases h with
    | leave _ hx => exact ⟨_, .returned hc _, .cons (.inst (hm.captured hx)) .nil⟩
  | branch t => cases h with
    | branch => exact ⟨_, .branch t, .cons (.block t) .nil⟩
  | leave c x => cases h with
    | leave _ hx =>
      exact ⟨_, .leave c _, .cons (.container c) (.cons (.inst (hm.captured hx)) .nil)⟩
  | leaveTo c x => cases h with
    | leave _ hx => exact ⟨_, .leaveTo c _, .cons (.inst (hm.captured hx)) .nil⟩
  | voidLeave c => cases h with
    | leave _ hx => cases hm.operand hx with
      | nop => exact ⟨_, .voidLeave c, .cons (.container c) .nil⟩
  | ifElse c t f => cases h with
    | ifElse hc ht hf =>
      exact ⟨_, .ifElse _ _ _,
        .cons (.inst (hm.captured hc)) (captures_two (hm.captured ht) (hm.captured hf))⟩
  | ifThen c t => cases h with
    | ifElse hc ht hf => cases hm.operand hf with
      | nop => exact ⟨_, .ifThen _ _, captures_two (hm.captured hc) (hm.captured ht)⟩
  | and l r => cases h with
    | ifElse hc ht hf => cases hm.operand hf with
      | constI4 => exact ⟨_, .and _ _, captures_two (hm.captured hc) (hm.captured ht)⟩
  | or l r => cases h with
    | ifElse hc ht hf => cases hm.operand ht with
      | constI4 => exact ⟨_, .or _ _, captures_two (hm.captured hc) (hm.captured hf)⟩
  | not x => cases h with
    | logicNot hx => exact ⟨_, .not _, .cons (.inst (hm.captured hx)) .nil⟩
  | comparison k s l r => cases h with
    | compare _ _ hl hr =>
      exact ⟨_, .comparison k s _ _, captures_two (hm.captured hl) (hm.captured hr)⟩
  | equals s l r => cases h with
    | compare _ _ hl hr =>
      exact ⟨_, .equals s _ _, captures_two (hm.captured hl) (hm.captured hr)⟩
  | equals_negated s l r => cases h with
    | logicNot hx => cases hm.operand hx with
      | compare _ _ hl hr =>
        exact ⟨_, .equals_negated s _ _, captures_two (hm.below hl) (hm.below hr)⟩
  | notEquals s l r => cases h with
    | compare _ _ hl hr =>
      exact ⟨_, .notEquals s _ _, captures_two (hm.captured hl) (hm.captured hr)⟩
  | notEquals_negated s l r => cases h with
    | logicNot hx => cases hm.operand hx with
      | compare _ _ hl hr =>
        exact ⟨_, .notEquals_negated s _ _, captures_two (hm.below hl) (hm.below hr)⟩
  | fieldAddress x f => cases h with
    | loadFieldAddr _ hx =>
      exact ⟨_, .fieldAddress _ f, .cons (.inst (hm.captured hx)) (.cons (.field f) .nil)⟩
  | staticFieldAddress f => cases h with
    | loadStaticFieldAddr => exact ⟨_, .staticFieldAddress f, .cons (.field f) .nil⟩
  | staticFieldLoad f t => cases h with
    | loadIndirect _ ha => cases hm.operand ha with
      | loadStaticFieldAddr => exact ⟨_, .staticFieldLoad f t, .cons (.field f) .nil⟩
  | fieldLoad x f t => cases h with
    | loadIndirect _ ha => cases hm.operand ha with
      | loadFieldAddr _ hx =>
        exact ⟨_, .fieldLoad _ f t, .cons (.inst (hm.below hx)) (.cons (.field f) .nil)⟩
  | staticFieldStore f y t => cases h with
    | storeIndirect _ ha hy => cases hm.operand ha with
      | loadStaticFieldAddr =>
        exact ⟨_, .staticFieldStore f _ t, .cons (.field f) (.cons (.inst (hm.captured hy)) .nil)⟩
  | fieldStore x f y t => cases h with
    | storeIndirect _ ha hy => cases hm.operand ha with
      | loadFieldAddr _ hx =>
        exact ⟨_, .fieldStore _ f _ t,
          .cons (.inst (hm.below hx)) (.cons (.field f) (.cons (.inst (hm.captured hy)) .nil))⟩
  | binaryOf op l r ovf s => cases h with
    | binaryNumeric _ _ _ hl hr =>
      exact ⟨_, .binaryOf op _ _ ovf s, captures_two (hm.captured hl) (hm.captured hr)⟩
  | binary op l r ovf s => cases h with
    | binaryNumeric _ _ _ hl hr =>
      exact ⟨_, .binary op _ _ ovf s,
        .cons (.operator op) (captures_two (hm.captured hl) (hm.captured hr))⟩
  | peel k => exact absurd rfl (hpeel k)

/-- The other way round it is the same, so what is rejected once is rejected twice. -/
theorem run_similar (hm : m.Blind V R S Q) (hpeel : ∀ k, m ≠ .peel k) (h : Similar V R a b) :
    Option.Rel (List.Forall₂ (Capture.Rel V Q)) (m.run a) (m.run b) := by
  cases ha : m.run a with
  | some cs =>
    obtain ⟨ds, hb, hcs⟩ := gives_similar hm hpeel h (gives_of_run ha)
    rw [run_of_gives hb]
    exact .some hcs
  | none =>
    cases hb : m.run b with
    | some ds =>
      obtain ⟨cs, hcs, -⟩ := gives_similar hm.symm hpeel h.symm (gives_of_run hb)
      rw [run_of_gives hcs] at ha
      cases ha
    | none => exact .none

end

end Matcher

namespace Inst

/-- By induction along the peeling: as long as a layer comes off one, one comes off the other. -/
theorem peel_similar {V : Variable → Variable → Prop} {R : Inst → Inst → Prop}
    (hR : ∀ {x y}, R x y → Similar V R x y) (k : Conversion) {a b : Inst} (h : R a b) :
    R (a.peel k) (b.peel k) := by
  fun_induction peel k a generalizing b with
  | case1 x t ih =>
    cases hR h with
    | conv _ _ _ hx =>
      rw [peel, if_pos rfl]
      exact ih hx
  | case2 x j t hj =>
    cases hR h with
    | conv _ _ _ hx =>
      rw [peel, if_neg hj]
      exact h
  | case3 i hi =>
    have hb : ¬ IsLayer k b := by
      rintro ⟨y, t, rfl⟩
      cases hR h with
      | conv _ _ _ hx => exact hi _ _ _ rfl
    rw [peel_of_not_isLayer hb]
    exact h

end Inst

/-- With one relation at all depths, peeling is no exception. -/
theorem Matcher.run_similar_deep {m : Matcher} {V : Variable → Variable → Prop}
    {R : Inst → Inst → Prop} (hm : m.Blind V R R R) {a b : Inst} (h : R a b) :
    Option.Rel (List.Forall₂ (Capture.Rel V R)) (m.run a) (m.run b) := by
  by_cases hpeel : ∃ k, m = .peel k
  · obtain ⟨k, rfl⟩ := hpeel
    have hrest : R (a.peel k) (b.peel k) := Inst.peel_similar hm.operand k h
    exact .some (.cons (.inst hrest) .nil)
  · have hne (k : Conversion) : m ≠ .peel k := fun hk => hpeel ⟨k, hk⟩
    exact run_similar hm hne (hm.operand h)

end ILTree
