import ILTree.Proofs.Shape.Peel
import ILTree.Proofs.Shape.Rules

/-!
# The operation codes of a matcher

The operation code of the root narrows down which matchers can accept an instruction, whatever they
are asked about and whatever stands below.

* `Matcher.Accepts`     a matcher accepts, or peels something off;
* `Matcher.opcodes`     the operation codes that a matcher is for;
* `mem_opcodes_iff`     it accepts some instruction of these codes and none of the others.
-/

namespace ILTree.Matcher

/-- Peeling leaves every instruction as it is where it does not apply. -/
def Accepts (i : Inst) : Matcher → Prop
  | peel k => i.peel k ≠ i
  | m => (m.run i).isSome = true

/-- The codes not listed here, `constF8`, `loadElementAddr`, `call` and `throw`, have no matcher. -/
def opcodes : Matcher → List OpCode
  | isNop => [.nop]
  | isI4 _ | i4 => [.constI4]
  | i8 => [.constI8]
  | int => [.constI4, .constI8]
  | isNull => [.constNull]
  | string => [.constString]
  | isLoadOf _ | loaded | isLoadOfThis => [.loadLocal]
  | isAddressOf _ | addressed => [.loadLocalAddr]
  | isReferenceTo v => if v.isReference = some true then [.loadLocal] else [.loadLocalAddr]
  | referenced => [.loadLocal, .loadLocalAddr]
  | stored | storedTo _ => [.storeLocal]
  | arrayLength _ => [.arrayLength]
  | returned | leavesFunction | leave | leaveTo _ | voidLeave | isVoidLeaveTo _ => [.leave]
  | branch | isBranchTo _ => [.branch]
  | ifElse | ifThen | and | or => [.ifElse]
  | not => [.logicNot]
  | equals | notEquals => [.logicNot, .compare]
  | comparison _ => [.compare]
  | handled => [.catchHandler]
  | fieldLoad | staticFieldLoad | isStaticFieldLoad _ => [.loadIndirect]
  | fieldStore | staticFieldStore => [.storeIndirect]
  | fieldAddress => [.loadFieldAddr]
  | staticFieldAddress => [.loadStaticFieldAddr]
  | isFieldAddress => [.loadFieldAddr, .loadStaticFieldAddr]
  | isBinary _ | binary | binaryOf _ => [.binaryNumeric]
  | peel _ => [.conv]

/-! ## peeling -/

theorem accepts_peel_iff {i : Inst} {k : Conversion} : (peel k).Accepts i ↔ i.layers k ≠ 0 :=
  not_congr Inst.peel_eq_self_iff

theorem opcode_of_layers {i : Inst} {k : Conversion} (h : i.layers k ≠ 0) : i.opcode = .conv := by
  cases i with
  | conv => rfl
  | _ => exact absurd rfl h

/-! ## all others -/

section
variable {m : Matcher} {i : Inst} {cs : List Capture} {o : OpCode}

theorem accepts_iff (hm : ∀ k, m ≠ .peel k) : m.Accepts i ↔ ∃ cs, Gives m i cs := by
  have haccepts : m.Accepts i ↔ (m.run i).isSome = true := by
    cases m with
    | peel k => exact absurd rfl (hm k)
    | _ => exact Iff.rfl
  simp only [haccepts, Option.isSome_iff_exists, run_eq_some_iff]

theorem mem_opcodes_of_gives (hm : ∀ k, m ≠ .peel k) (h : Gives m i cs) : i.opcode ∈ m.opcodes := by
  cases h with
  | isReferenceTo_load hv =>
    rw [opcodes, if_pos hv]
    exact List.mem_cons_self
  | isReferenceTo_address hv =>
    rw [opcodes, if_neg hv]
    exact List.mem_cons_self
  | peel k i => exact absurd rfl (hm k)
  | int_i8 | referenced_address | equals | notEquals | isFieldAddress_static =>
    exact List.mem_cons_of_mem _ List.mem_cons_self
  | _ => exact List.mem_cons_self

/-! ## an instruction of each code -/

/-- the receiver, which is a reference -/
def someReceiver : Variable := ⟨⟨0⟩, .parameter, Variable.thisIndex, .object, none⟩

/-- a local that is not a reference -/
def someNumber : Variable := ⟨⟨0⟩, .localSlot, 0, .i32, none⟩

def someBody : Container := ⟨0, .function⟩

def someField : FieldRef := ⟨.ofParts Token.fieldTable 1⟩

/-- For a matcher of one code, one sample is enough. -/
theorem exists_of_only {p : OpCode} (h : o ∈ [p]) (hi : i.opcode = p) (hg : Gives m i cs) :
    ∃ i cs, i.opcode = o ∧ Gives m i cs :=
  ⟨i, cs, hi.trans (List.mem_singleton.mp h).symm, hg⟩

/-- For a matcher of two codes, there is a sample of each. -/
theorem exists_of_either {p q : OpCode} {j : Inst} {ds : List Capture} (h : o ∈ [p, q])
    (hi : i.opcode = p) (hg : Gives m i cs) (hj : j.opcode = q) (hg' : Gives m j ds) :
    ∃ i cs, i.opcode = o ∧ Gives m i cs := by
  rcases List.mem_cons.mp h with rfl | h
  · exact ⟨i, cs, hi, hg⟩
  · exact exists_of_only h hj hg'

theorem exists_gives (hm : ∀ k, m ≠ .peel k) (h : o ∈ m.opcodes) :
    ∃ i cs, i.opcode = o ∧ Gives m i cs := by
  have hsame (v : Variable) : v.same v = true := (Variable.same_iff v v).mpr rfl
  cases m with
  | isNop => exact exists_of_only h rfl .isNop
  | isNull => exact exists_of_only h rfl .isNull
  | isI4 n => exact exists_of_only h rfl (.isI4 n)
  | isLoadOf v => exact exists_of_only h rfl (.isLoadOf (hsame v))
  | isAddressOf v => exact exists_of_only h rfl (.isAddressOf (hsame v))
  | isReferenceTo v =>
    rw [opcodes] at h
    split at h
    next hv => exact exists_of_only h rfl (.isReferenceTo_load hv (hsame v))
    next hv => exact exists_of_only h rfl (.isReferenceTo_address hv (hsame v))
  | isLoadOfThis => exact exists_of_only h rfl (.isLoadOfThis (v := someReceiver) (by decide))
  | isBranchTo b => exact exists_of_only h rfl (.isBranchTo b)
  | isVoidLeaveTo c => exact exists_of_only h rfl (.isVoidLeaveTo c)
  | isStaticFieldLoad f => exact exists_of_only h rfl (.isStaticFieldLoad f .i32)
  | isFieldAddress =>
    exact exists_of_either h rfl (.isFieldAddress_field .nop someField) rfl
      (.isFieldAddress_static someField)
  | isBinary op => exact exists_of_only h rfl (.isBinary op .nop .nop false .none)
  | leavesFunction => exact exists_of_only h rfl (.leavesFunction (c := someBody) rfl .nop)
  | i4 => exact exists_of_only h rfl (.i4 0)
  | i8 => exact exists_of_only h rfl (.i8 0)
  | int => exact exists_of_either h rfl (.int_i4 0) rfl (.int_i8 0)
  | string => exact exists_of_only h rfl (.string "")
  | loaded => exact exists_of_only h rfl (.loaded someReceiver)
  | addressed => exact exists_of_only h rfl (.addressed someReceiver)
  | referenced =>
    exact exists_of_either h rfl (.referenced_load (v := someReceiver) (by decide)) rfl
      (.referenced_address (v := someNumber) (by decide))
  | stored => exact exists_of_only h rfl (.stored someReceiver .nop)
  | storedTo v => exact exists_of_only h rfl (.storedTo (hsame v) .nop)
  | handled => exact exists_of_only h rfl (.handled someReceiver .nop .nop)
  | arrayLength t => exact exists_of_only h rfl (.arrayLength t .nop)
  | returned => exact exists_of_only h rfl (.returned (c := someBody) rfl .nop)
  | branch => exact exists_of_only h rfl (.branch ⟨0⟩)
  | leave => exact exists_of_only h rfl (.leave someBody .nop)
  | leaveTo c => exact exists_of_only h rfl (.leaveTo c .nop)
  | voidLeave => exact exists_of_only h rfl (.voidLeave someBody)
  | ifElse => exact exists_of_only h rfl (.ifElse .nop .nop .nop)
  | ifThen => exact exists_of_only h rfl (.ifThen .nop .nop)
  | and => exact exists_of_only h rfl (.and .nop .nop)
  | or => exact exists_of_only h rfl (.or .nop .nop)
  | not => exact exists_of_only h rfl (.not .nop)
  | comparison k => exact exists_of_only h rfl (.comparison k .none .nop .nop)
  | equals =>
    exact exists_of_either h rfl (.equals_negated .none .nop .nop) rfl (.equals .none .nop .nop)
  | notEquals =>
    exact exists_of_either h rfl (.notEquals_negated .none .nop .nop) rfl
      (.notEquals .none .nop .nop)
  | fieldAddress => exact exists_of_only h rfl (.fieldAddress .nop someField)
  | staticFieldAddress => exact exists_of_only h rfl (.staticFieldAddress someField)
  | staticFieldLoad => exact exists_of_only h rfl (.staticFieldLoad someField .i32)
  | fieldLoad => exact exists_of_only h rfl (.fieldLoad .nop someField .i32)
  | staticFieldStore => exact exists_of_only h rfl (.staticFieldStore someField .nop .i32)
  | fieldStore => exact exists_of_only h rfl (.fieldStore .nop someField .nop .i32)
  | binaryOf op => exact exists_of_only h rfl (.binaryOf op .nop .nop false .none)
  | binary => exact exists_of_only h rfl (.binary .add .nop .nop false .none)
  | peel k => exact absurd rfl (hm k)

end

/-- **Each matcher belongs to its operation codes only.**  With any arguments, a matcher accepts
some instruction of an operation code exactly if the code is one of its own. -/
theorem mem_opcodes_iff (m : Matcher) (o : OpCode) :
    o ∈ m.opcodes ↔ ∃ i : Inst, i.opcode = o ∧ m.Accepts i := by
  by_cases hm : ∃ k, m = .peel k
  · obtain ⟨k, rfl⟩ := hm
    constructor
    · intro h
      obtain rfl := List.mem_singleton.mp h
      exact ⟨.conv .nop k .unknown false, rfl, accepts_peel_iff.mpr (by simp [Inst.layers])⟩
    · rintro ⟨i, rfl, h⟩
      exact List.mem_singleton.mpr (opcode_of_layers (accepts_peel_iff.mp h))
  · have hm' (k : Conversion) (h : m = .peel k) : False := hm ⟨k, h⟩
    constructor
    · intro h
      obtain ⟨i, cs, hi, hg⟩ := exists_gives hm' h
      exact ⟨i, hi, (accepts_iff hm').mpr ⟨cs, hg⟩⟩
    · rintro ⟨i, rfl, h⟩
      obtain ⟨cs, hg⟩ := (accepts_iff hm').mp h
      exact mem_opcodes_of_gives hm' hg

end ILTree.Matcher
