import Mathlib.Data.List.Nodup
import ILTree.Inst.Children

/-!
# The fields that hold operands

An instruction holds each operand in a field of its own, and an array of indices or of arguments is
a field for each element.

* `Slot`                        the fields;
* `Inst.fields`                 the operands of an instruction, each with its field, as they are
                                declared;
* `children_eq_fields`          the children are these operands;
* `nodup_slots`                 no field comes twice;
* `Head.withOperands?`          what a constructor makes of its operands;
* `eq_of_head_of_children`      head and children determine the instruction.
-/

namespace ILTree

inductive Slot where
  | value | array | condition | trueInst | falseInst | argument | left | right | filter | body
  | target
  | index (n : Nat)
  | arg (n : Nat)
  deriving DecidableEq

namespace Inst

/-! ## operands by field -/

/-- the elements of an array, each in a field of its own -/
def elements (slot : Nat → Slot) (is : List Inst) : List (Slot × Inst) :=
  is.zipIdx.map fun (i, n) => (slot n, i)

def fields : Inst → List (Slot × Inst)
  | storeLocal _ x => [(.value, x)]
  | arrayLength _ a => [(.array, a)]
  | leave _ x => [(.value, x)]
  | ifElse c x y => [(.condition, c), (.trueInst, x), (.falseInst, y)]
  | logicNot x => [(.argument, x)]
  | compare _ _ l r => [(.left, l), (.right, r)]
  | catchHandler _ f b => [(.filter, f), (.body, b)]
  | loadIndirect a _ => [(.target, a)]
  | storeIndirect a x _ => [(.target, a), (.value, x)]
  | loadFieldAddr x _ => [(.target, x)]
  | loadElementAddr a is _ => (.array, a) :: elements .index is
  | binaryNumeric _ l r _ _ => [(.left, l), (.right, r)]
  | conv x _ _ _ => [(.argument, x)]
  | call _ args => elements .arg args
  | throw x => [(.argument, x)]
  | _ => []

theorem map_snd_elements (slot : Nat → Slot) (is : List Inst) :
    (elements slot is).map Prod.snd = is := by
  rw [elements, List.map_map]
  exact List.zipIdx_map_fst 0 is

theorem map_fst_elements (slot : Nat → Slot) (is : List Inst) :
    (elements slot is).map Prod.fst = (List.range is.length).map slot := by
  rw [elements, List.map_map, List.range_eq_range', ← List.zipIdx_map_snd 0 is, List.map_map]
  rfl

theorem children_eq_fields (i : Inst) : i.children = i.fields.map Prod.snd := by
  cases i with
  | loadElementAddr a is t =>
    show a :: is = a :: (elements .index is).map Prod.snd
    rw [map_snd_elements]
  | call m args => exact (map_snd_elements .arg args).symm
  | _ => rfl

theorem nodup_elements {slot : Nat → Slot} (hslot : ∀ m n, slot m = slot n → m = n)
    (is : List Inst) : ((elements slot is).map Prod.fst).Nodup := by
  rw [map_fst_elements]
  exact List.nodup_range.map fun m n h => hslot m n h

theorem nodup_slots (i : Inst) : (i.fields.map Prod.fst).Nodup := by
  cases i with
  | loadElementAddr a is t =>
    show (Slot.array :: (elements .index is).map Prod.fst).Nodup
    refine List.nodup_cons.mpr ⟨?_, nodup_elements (fun m n h => Slot.index.inj h) is⟩
    rw [map_fst_elements, List.mem_map]
    rintro ⟨n, -, h⟩
    cases h
  | call m args => exact nodup_elements (fun m n h => Slot.arg.inj h) args
  | _ => simp [fields]

end Inst

/-! ## instructions from head and operands -/

/-- the instruction with this head and these operands, if they are as many as it takes -/
def Head.withOperands? : Head → List Inst → Option Inst
  | nop, [] => some .nop
  | constI4 n, [] => some (.constI4 n)
  | constI8 n, [] => some (.constI8 n)
  | constF8 x, [] => some (.constF8 x)
  | constNull, [] => some .constNull
  | constString s, [] => some (.constString s)
  | loadLocal v, [] => some (.loadLocal v)
  | loadLocalAddr v, [] => some (.loadLocalAddr v)
  | storeLocal v, [x] => some (.storeLocal v x)
  | arrayLength t, [a] => some (.arrayLength t a)
  | leave c, [x] => some (.leave c x)
  | branch b, [] => some (.branch b)
  | ifElse, [c, x, y] => some (.ifElse c x y)
  | logicNot, [x] => some (.logicNot x)
  | compare k s, [l, r] => some (.compare k s l r)
  | catchHandler v, [f, b] => some (.catchHandler v f b)
  | loadIndirect t, [a] => some (.loadIndirect a t)
  | storeIndirect t, [a, x] => some (.storeIndirect a x t)
  | loadFieldAddr f, [x] => some (.loadFieldAddr x f)
  | loadStaticFieldAddr f, [] => some (.loadStaticFieldAddr f)
  | loadElementAddr t, a :: is => some (.loadElementAddr a is t)
  | binaryNumeric op ovf s, [l, r] => some (.binaryNumeric op l r ovf s)
  | conv k t ovf, [x] => some (.conv x k t ovf)
  | call m, args => some (.call m args)
  | throw, [x] => some (.throw x)
  | _, _ => none

namespace Inst

/-- What is taken apart into head and operands is put together again. -/
theorem withOperands?_self (i : Inst) : i.head.withOperands? i.children = some i := by
  cases i <;> rfl

theorem eq_of_head_of_children {i j : Inst} (hh : i.head = j.head) (hc : i.children = j.children) :
    i = j := by
  have hi := withOperands?_self i
  rw [hh, hc, withOperands?_self j] at hi
  exact (Option.some.inj hi).symm

end Inst

end ILTree
