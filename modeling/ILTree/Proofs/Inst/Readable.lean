import ILTree.Proofs.Inst.Apart
import ILTree.Proofs.Inst.Occurrence
import ILTree.Proofs.Scope.Handles
import ILTree.Shape.Boolean

/-!
# Trees are told apart by their texts

* `Legend.ofRun`             a run within the counters that names no variable gives a legend;
* `Inst.Legible`             a tree of a legend without doubles, in which each `if` has an else arm;
* `Inst.Legible.apart`       two such trees are apart, by induction on one of them;
* `Inst.uniquely_readable`   two such trees print alike exactly if they are equal after erasure.
-/

namespace ILTree

/-- the variables and containers of the scope that a run leads to -/
def Legend.ofRun (rs : List Request) (hw : Scope.new.Within rs)
    (hn : ∀ v ∈ (Scope.new.run rs).2.table, v.name = none) : Legend where
  vars := (Scope.new.run rs).2.table
  targets := Scope.targets rs
  word v hv := (Scope.numbered_run fun c _ => hw c).word hv (hn v hv)
  var_inj v hv w hw' h :=
    (Scope.numbered_run fun c _ => hw c).eq_of_text hv hw' (hn v hv) (hn w hw') h
  target_inj _ hc _ hd h := Scope.containers_eq_of_id (hw .containers) hc hd h

namespace Inst

/-! ## legible trees -/

/-- The variables and the targets of leaves come from the lists given, there is no double, and
each `if` has an else arm. -/
structure Legible (vars : List Variable) (targets : List Container) (i : Inst) : Prop where
  var : ∀ v ∈ i.vars, v ∈ vars
  target : ∀ c ∈ i.targets, c ∈ targets
  noDouble : ∀ j ∈ i.preorder, j.opcode ≠ .constF8
  hasElse : ∀ j ∈ i.preorder, j.ifThen? = none

section
variable {vars : List Variable} {targets : List Container}

theorem legible_iff (i : Inst) : i.Legible vars targets ↔
    (∀ v ∈ i.vars, v ∈ vars) ∧ (∀ c ∈ i.targets, c ∈ targets) ∧
    (∀ j ∈ i.preorder, j.opcode ≠ .constF8) ∧ ∀ j ∈ i.preorder, j.ifThen?.isNone = true := by
  simp only [Option.isNone_iff_eq_none]
  exact ⟨fun h => ⟨h.var, h.target, h.noDouble, h.hasElse⟩,
    fun ⟨hv, ht, hd, he⟩ => ⟨hv, ht, hd, he⟩⟩

instance (i : Inst) : Decidable (i.Legible vars targets) :=
  decidable_of_iff' _ (legible_iff i)

theorem Legible.child {i c : Inst} (h : i.Legible vars targets) (hc : c ∈ i.children) :
    c.Legible vars targets where
  var v hv := h.var v (vars_of_child hc hv)
  target d hd := h.target d (targets_of_child hc hd)
  noDouble j hj := h.noDouble j (preorder_of_child hc hj)
  hasElse j hj := h.hasElse j (preorder_of_child hc hj)

theorem Legible.headVar {i : Inst} {v : Variable} (h : i.Legible vars targets)
    (hv : i.head.var? = some v) : v ∈ vars := h.var v (mem_vars_of_head hv)

theorem Legible.headTarget {i : Inst} {c : Container} (h : i.Legible vars targets)
    (hc : i.head.target? = some c) : c ∈ targets := h.target c (mem_targets_of_head hc)

theorem Legible.not_double {x : Double} (h : (constF8 x).Legible vars targets) : False :=
  h.noDouble _ (self_mem_preorder _) rfl

theorem Legible.else_ne {c x y : Inst} (h : (ifElse c x y).Legible vars targets) : y ≠ nop := by
  intro e
  have hnone := h.hasElse _ (self_mem_preorder _)
  rw [e] at hnone
  cases hnone

end

/-- Two legible trees of one shape are apart if their operands are. -/
theorem Legible.apart_of_operands (L : Legend) {a b : Inst} (ha : a.Legible L.vars L.targets)
    (hb : b.Legible L.vars L.targets) (ho : a.opcode = b.opcode)
    (ihc : ∀ x ∈ a.children, ∀ y ∈ b.children, x.Apart y) : a.Apart b := by
  have operand (n : Nat) {x y : Inst} (hx : a.children[n]? = some x)
      (hy : b.children[n]? = some y) : x.Apart y :=
    ihc x (List.mem_of_getElem? hx) y (List.mem_of_getElem? hy)
  cases a <;> cases b <;> try cases ho
  case nop.nop => exact fun r s _ _ h => ⟨rfl, List.append_cancel_left h⟩
  case constI4.constI4 n m => exact constI4_apart n m
  case constI8.constI8 n m => exact constI8_apart n m
  case constF8.constF8 => exact ha.not_double.elim
  case constNull.constNull => exact fun r s _ _ h => ⟨rfl, List.append_cancel_left h⟩
  case constString.constString u v => exact constString_apart u v
  case loadLocal.loadLocal =>
    exact loadLocal_apart L (ha.headVar rfl) (hb.headVar rfl)
  case loadLocalAddr.loadLocalAddr =>
    exact loadLocalAddr_apart L (ha.headVar rfl) (hb.headVar rfl)
  case storeLocal.storeLocal =>
    exact storeLocal_apart L (ha.headVar rfl) (hb.headVar rfl) (operand 0 rfl rfl)
  case arrayLength.arrayLength => exact arrayLength_apart _ _ (operand 0 rfl rfl)
  case leave.leave =>
    exact leave_apart L (ha.headTarget rfl) (hb.headTarget rfl) (operand 0 rfl rfl)
  case branch.branch => exact branch_apart _ _
  case ifElse.ifElse =>
    exact ifElse_apart (operand 0 rfl rfl) (operand 1 rfl rfl) (operand 2 rfl rfl)
      ha.else_ne hb.else_ne
  case logicNot.logicNot => exact logicNot_apart (operand 0 rfl rfl)
  case compare.compare => exact compare_apart _ _ _ _ (operand 0 rfl rfl) (operand 1 rfl rfl)
  case catchHandler.catchHandler =>
    exact catchHandler_apart L (ha.headVar rfl) (hb.headVar rfl) (operand 0 rfl rfl)
      (operand 1 rfl rfl)
  case loadIndirect.loadIndirect => exact loadIndirect_apart _ _ (operand 0 rfl rfl)
  case storeIndirect.storeIndirect =>
    exact storeIndirect_apart _ _ (operand 0 rfl rfl) (operand 1 rfl rfl)
  case loadFieldAddr.loadFieldAddr => exact loadFieldAddr_apart _ _ (operand 0 rfl rfl)
  case loadStaticFieldAddr.loadStaticFieldAddr => exact loadStaticFieldAddr_apart _ _
  case loadElementAddr.loadElementAddr =>
    exact loadElementAddr_apart _ _ (operand 0 rfl rfl) fun x hx y hy =>
      ihc x (List.mem_cons_of_mem _ hx) y (List.mem_cons_of_mem _ hy)
  case binaryNumeric.binaryNumeric =>
    exact binaryNumeric_apart _ _ _ _ _ _ (operand 0 rfl rfl) (operand 1 rfl rfl)
  case conv.conv => exact conv_apart _ _ _ _ _ _ (operand 0 rfl rfl)
  case call.call => exact call_apart _ _ ihc
  case throw.throw => exact throw_apart (operand 0 rfl rfl)

/-- Two legible trees are apart: the fixed text that each of them starts with shows that they have
one shape, and their operands are apart by induction. -/
theorem Legible.apart (L : Legend) {a b : Inst} (ha : a.Legible L.vars L.targets)
    (hb : b.Legible L.vars L.targets) : a.Apart b := by
  induction a using induct generalizing b with
  | step a ih =>
    intro r s hr hs h
    refine ha.apart_of_operands L hb (opcode_of_text h) (fun x hx y hy => ?_) r s hr hs h
    exact ih x hx (ha.child hx) (hb.child hy)

/-- **Texts are uniquely readable.**  Take two legible trees of the scope that a run leads to, one
within the counters that names no variable.  They print alike exactly if they are equal but for the
signs of comparisons and, in the types of memory accesses, but for class types and value types of
one token and for arrays of rank zero and one. -/
theorem uniquely_readable {rs : List Request} (hw : Scope.new.Within rs)
    (hn : ∀ v ∈ (Scope.new.run rs).2.table, v.name = none) {a b : Inst}
    (ha : a.Legible (Scope.new.run rs).2.table (Scope.targets rs))
    (hb : b.Legible (Scope.new.run rs).2.table (Scope.targets rs)) :
    a.text = b.text ↔ a.erase = b.erase := by
  constructor
  · intro h
    have hapart : a.Apart b := ha.apart (Legend.ofRun rs hw hn) hb
    exact (hapart [] [] rfl rfl (by rw [h])).1
  · intro h
    rw [← text_erase a, h, text_erase]

/-- two trees of the text `if (comp(ldloc loc0 < ldloc S_0)) leave C0 (ldobj
type(0x02000001)[](ldloca loc0)) else leave C1` -/
theorem uniquely_readable_collapsed :
    let rs : List Request :=
      [.declareThis .object, .newLocal .i32, .newStackSlot .i32, .newContainer .block]
    let v : Variable := ⟨⟨1⟩, .localSlot, 0, .i32, none⟩
    let w : Variable := ⟨⟨2⟩, .stackSlot, 0, .i32, none⟩
    let tree (sign : Sign) (ty : Ty) : Inst :=
      .ifElse (.compare .lessThan sign (.loadLocal v) (.loadLocal w))
        (.leave ⟨0, .function⟩ (.loadIndirect (.loadLocalAddr v) ty))
        (.leaveVoid ⟨1, .block⟩)
    let a := tree .none (.array (.classType ⟨⟨0x02000001⟩⟩) 0)
    let b := tree .unsigned (.array (.valueType ⟨⟨0x02000001⟩⟩) 1)
    Scope.new.Within rs ∧ (∀ v ∈ (Scope.new.run rs).2.table, v.name = none) ∧
    a.Legible (Scope.new.run rs).2.table (Scope.targets rs) ∧
    b.Legible (Scope.new.run rs).2.table (Scope.targets rs) ∧
    a.text = b.text ∧ a.erase = b.erase := by
  intro rs v w tree a b
  have hw : Scope.new.Within rs := by
    intro c
    cases c <;> decide
  have hn : ∀ v ∈ (Scope.new.run rs).2.table, v.name = none := by decide
  have ha : a.Legible (Scope.new.run rs).2.table (Scope.targets rs) := by decide
  have hb : b.Legible (Scope.new.run rs).2.table (Scope.targets rs) := by decide
  have he : a.erase = b.erase := rfl
  exact ⟨hw, hn, ha, hb, (uniquely_readable hw hn ha hb).mpr he, he⟩

end Inst

end ILTree
