import ILTree.Token
import ILTree.Handle

/-!
# Faults

What can go wrong while a tree is built.  Looking at a tree never fails.

* `Fault.message`   the fault as a sentence;
* `Fault.dump`      the fault with its cause spelled out.
-/

namespace ILTree

inductive Fault where
  /-- the token's table holds no fields -/
  | notAField (token : Token)
  /-- no variable of the scope has this id -/
  | unknownVariable (id : VariableId)
  /-- a parameter with this index (`-1`: the receiver) is there already -/
  | duplicateParameter (index : Int32)
  deriving DecidableEq

namespace Fault

def message : Fault → String
  | notAField t => "Token " ++ t.text ++ " does not reference a field"
  | unknownVariable v => "Variable " ++ v.text ++ " not found"
  | duplicateParameter i => "Parameter with index " ++ Int.repr i.toInt ++ " is already declared"

def dump : Fault → String
  | notAField t => Structured.tuple "InvalidFieldToken" [t.dump]
  | unknownVariable v => Structured.tuple "VariableNotFound" [v.text]
  | duplicateParameter i => Structured.tuple "DuplicateParameter" [Int.repr i.toInt]

end Fault

end ILTree
