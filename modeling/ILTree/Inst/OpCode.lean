import ILTree.Vocabulary

/-!
# Operation codes

* `OpCode`        one for each shape of instruction;
* `OpCode.text`   its mnemonic.
-/

namespace ILTree

inductive OpCode where
  | nop | constI4 | constI8 | constF8 | constNull | constString | loadLocal | loadLocalAddr
  | storeLocal | arrayLength | leave | branch | ifElse | logicNot | compare | catchHandler
  | loadIndirect | storeIndirect | loadFieldAddr | loadStaticFieldAddr | loadElementAddr
  | binaryNumeric | conv | call | throw
  deriving DecidableEq

namespace OpCode

instance : Vocabulary OpCode where
  members := [nop, constI4, constI8, constF8, constNull, constString, loadLocal, loadLocalAddr,
    storeLocal, arrayLength, leave, branch, ifElse, logicNot, compare, catchHandler, loadIndirect,
    storeIndirect, loadFieldAddr, loadStaticFieldAddr, loadElementAddr, binaryNumeric, conv, call,
    throw]
  complete c := by cases c <;> decide
  name
    | nop => "Nop"
    | constI4 => "ConstI4"
    | constI8 => "ConstI8"
    | constF8 => "ConstF8"
    | constNull => "ConstNull"
    | constString => "ConstString"
    | loadLocal => "LoadLocal"
    | loadLocalAddr => "LoadLocalAddr"
    | storeLocal => "StoreLocal"
    | arrayLength => "ArrayLength"
    | leave => "Leave"
    | branch => "Branch"
    | ifElse => "If"
    | logicNot => "LogicNot"
    | compare => "Compare"
    | catchHandler => "CatchHandler"
    | loadIndirect => "LoadIndirect"
    | storeIndirect => "StoreIndirect"
    | loadFieldAddr => "LoadFieldAddr"
    | loadStaticFieldAddr => "LoadStaticFieldAddr"
    | loadElementAddr => "LoadElementAddr"
    | binaryNumeric => "BinaryNumeric"
    | conv => "Conv"
    | call => "Call"
    | throw => "Throw"
  distinct := by decide

def text : OpCode → String
  | nop => "nop"
  | constI4 => "ldc.i4"
  | constI8 => "ldc.i8"
  | constF8 => "ldc.f8"
  | constNull => "ldnull"
  | constString => "ldstr"
  | loadLocal => "ldloc"
  | loadLocalAddr => "ldloca"
  | storeLocal => "stloc"
  | arrayLength => "ldlen"
  | leave => "leave"
  | branch => "br"
  | ifElse => "if"
  | logicNot => "logic.not"
  | compare => "comp"
  | catchHandler => "try.catch.handler"
  | loadIndirect => "ldobj"
  | storeIndirect => "stobj"
  | loadFieldAddr => "ldflda"
  | loadStaticFieldAddr => "ldsflda"
  | loadElementAddr => "ldelema"
  | binaryNumeric => "binary"
  | conv => "conv"
  | call => "call"
  | throw => "throw"

end OpCode

end ILTree
