import ILTree.Variable
import ILTree.Double.Basic

/-!
# Instruction trees

An instruction owns its operands, so that `a.f + 1` is the single tree
`binary.add(ldobj(ldflda f(ldloc a)), ldc.i4 1)`.

* `Inst`          one constructor a shape, operands and everything else it carries;
* `Inst.nop`      also stands where an optional operand is absent: the else arm of an `if`, the
                  value of a `leave`, the filter of a handler;
* `Inst.ifThen`, `Inst.leaveVoid`, `Inst.catchAll`   the shapes with such an absent operand;
* `Inst.comparison`, `Inst.binary`, `Inst.convert`   the shapes without checks and sign;
* `Inst.shortAnd`, `Inst.shortOr`   how `&&` and `||` are written with an `if`.
-/

namespace ILTree

inductive Inst where
  | nop
  | constI4 (value : Int32)
  | constI8 (value : Int64)
  | constF8 (value : Double)
  | constNull
  | constString (value : String)
  | loadLocal (var : Variable)
  | loadLocalAddr (var : Variable)
  | storeLocal (var : Variable) (value : Inst)
  | arrayLength (resultType : StackType) (array : Inst)
  | leave (target : Container) (value : Inst)
  | branch (target : Block)
  | ifElse (condition trueInst falseInst : Inst)
  | logicNot (argument : Inst)
  | compare (kind : Comparison) (sign : Sign) (left right : Inst)
  | catchHandler (var : Variable) (filter body : Inst)
  | loadIndirect (target : Inst) (ty : Ty)
  | storeIndirect (target value : Inst) (ty : Ty)
  | loadFieldAddr (target : Inst) (field : FieldRef)
  | loadStaticFieldAddr (field : FieldRef)
  | loadElementAddr (array : Inst) (indices : List Inst) (elementType : Ty)
  | binaryNumeric (operator : BinaryOperator) (left right : Inst) (checkOverflow : Bool)
      (sign : Sign)
  | conv (argument : Inst) (kind : Conversion) (targetType : StackType) (checkOverflow : Bool)
  | call (method : MethodRef) (args : List Inst)
  | throw (argument : Inst)

namespace Inst

instance : Inhabited Inst := ⟨nop⟩

/-! ## shapes with an absent operand -/

def ifThen (condition trueInst : Inst) : Inst := ifElse condition trueInst nop

def leaveVoid (target : Container) : Inst := leave target nop

/-- a handler without a filter -/
def catchAll (var : Variable) (body : Inst) : Inst := catchHandler var nop body

/-! ## shapes without checks and sign -/

def comparison (kind : Comparison) (left right : Inst) : Inst := compare kind .none left right

def binary (operator : BinaryOperator) (left right : Inst) : Inst :=
  binaryNumeric operator left right false .none

def convert (argument : Inst) (kind : Conversion) (targetType : StackType) : Inst :=
  conv argument kind targetType false

/-! ## short-circuit operators -/

/-- `left && right`: the right operand, if the left one holds -/
def shortAnd (left right : Inst) : Inst := ifElse left right (constI4 0)

/-- `left || right`: the right operand, if the left one fails -/
def shortOr (left right : Inst) : Inst := ifElse left (constI4 1) right

end Inst

end ILTree
