import ILTree.Inst.Basic
import ILTree.Inst.OpCode

/-!
# Heads

The head of an instruction is all that it carries besides its operands.

* `Inst.head`     the head of an instruction;
* `Head.opcode`, `Inst.opcode`   which shape it is;
* `Head.same`     comparison of heads: variables by id, doubles as numbers, the rest as it is.
-/

namespace ILTree

inductive Head where
  | nop
  | constI4 (value : Int32)
  | constI8 (value : Int64)
  | constF8 (value : Double)
  | constNull
  | constString (value : String)
  | loadLocal (var : Variable)
  | loadLocalAddr (var : Variable)
  | storeLocal (var : Variable)
  | arrayLength (resultType : StackType)
  | leave (target : Container)
  | branch (target : Block)
  | ifElse
  | logicNot
  | compare (kind : Comparison) (sign : Sign)
  | catchHandler (var : Variable)
  | loadIndirect (ty : Ty)
  | storeIndirect (ty : Ty)
  | loadFieldAddr (field : FieldRef)
  | loadStaticFieldAddr (field : FieldRef)
  | loadElementAddr (elementType : Ty)
  | binaryNumeric (operator : BinaryOperator) (checkOverflow : Bool) (sign : Sign)
  | conv (kind : Conversion) (targetType : StackType) (checkOverflow : Bool)
  | call (method : MethodRef)
  | throw
  deriving DecidableEq

namespace Head

def opcode : Head → OpCode
  | nop => .nop
  | constI4 _ => .constI4
  | constI8 _ => .constI8
  | constF8 _ => .constF8
  | constNull => .constNull
  | constString _ => .constString
  | loadLocal _ => .loadLocal
  | loadLocalAddr _ => .loadLocalAddr
  | storeLocal _ => .storeLocal
  | arrayLength _ => .arrayLength
  | leave _ => .leave
  | branch _ => .branch
  | ifElse => .ifElse
  | logicNot => .logicNot
  | compare _ _ => .compare
  | catchHandler _ => .catchHandler
  | loadIndirect _ => .loadIndirect
  | storeIndirect _ => .storeIndirect
  | loadFieldAddr _ => .loadFieldAddr
  | loadStaticFieldAddr _ => .loadStaticFieldAddr
  | loadElementAddr _ => .loadElementAddr
  | binaryNumeric _ _ _ => .binaryNumeric
  | conv _ _ _ => .conv
  | call _ => .call
  | throw => .throw

def same : Head → Head → Bool
  | constF8 x, constF8 y => x.same y
  | loadLocal v, loadLocal w => v.same w
  | loadLocalAddr v, loadLocalAddr w => v.same w
  | storeLocal v, storeLocal w => v.same w
  | catchHandler v, catchHandler w => v.same w
  | a, b => a == b

end Head

namespace Inst

def head : Inst → Head
  | nop => .nop
  | constI4 n => .constI4 n
  | constI8 n => .constI8 n
  | constF8 x => .constF8 x
  | constNull => .constNull
  | constString s => .constString s
  | loadLocal v => .loadLocal v
  | loadLocalAddr v => .loadLocalAddr v
  | storeLocal v _ => .storeLocal v
  | arrayLength t _ => .arrayLength t
  | leave c _ => .leave c
  | branch b => .branch b
  | ifElse _ _ _ => .ifElse
  | logicNot _ => .logicNot
  | compare k s _ _ => .compare k s
  | catchHandler v _ _ => .catchHandler v
  | loadIndirect _ t => .loadIndirect t
  | storeIndirect _ _ t => .storeIndirect t
  | loadFieldAddr _ f => .loadFieldAddr f
  | loadStaticFieldAddr f => .loadStaticFieldAddr f
  | loadElementAddr _ _ t => .loadElementAddr t
  | binaryNumeric op _ _ ovf s => .binaryNumeric op ovf s
  | conv _ k t ovf => .conv k t ovf
  | call m _ => .call m
  | throw _ => .throw

def opcode (i : Inst) : OpCode := i.head.opcode

end Inst

end ILTree
