import ILTree.Inst.Basic

/-!
# Shapes of one instruction: constants, variables, lengths, arithmetic

A test `isX` says whether an instruction has a shape, `x?` also gives its parts.  Variables are
compared by id.

* constants   `isNop`, `isNull`, `isI4`, `i4?`, `i8?`, `int?`, `string?`;
* variables   `isLoadOf`, `loaded?`, `isAddressOf`, `addressed?`, `stored?`, `storedTo?`,
              `isLoadOfThis`;
* `isReferenceTo`, `referenced?`   a variable as the target of a member access: loaded if it is
              known to hold an object reference, through its address otherwise;
* others      `handled?`, `arrayLength?`, `isBinary`, `binary?`, `binaryOf?`.
-/

namespace ILTree.Inst

/-! ## constants -/

def isNop : Inst → Bool
  | nop => true
  | _ => false

def isNull : Inst → Bool
  | constNull => true
  | _ => false

def isI4 (n : Int32) : Inst → Bool
  | constI4 m => m == n
  | _ => false

def i4? : Inst → Option Int32
  | constI4 n => some n
  | _ => none

def i8? : Inst → Option Int64
  | constI8 n => some n
  | _ => none

/-- an integer of either width -/
def int? : Inst → Option Int64
  | constI8 n => some n
  | constI4 n => some n.toInt64
  | _ => none

def string? : Inst → Option String
  | constString s => some s
  | _ => none

/-! ## variables -/

def isLoadOf (v : Variable) : Inst → Bool
  | loadLocal w => w.same v
  | _ => false

def isAddressOf (v : Variable) : Inst → Bool
  | loadLocalAddr w => w.same v
  | _ => false

def loaded? : Inst → Option Variable
  | loadLocal v => some v
  | _ => none

def addressed? : Inst → Option Variable
  | loadLocalAddr v => some v
  | _ => none

/-- what `v` holds is asked of `v` itself, not of the variable in the instruction -/
def isReferenceTo (v : Variable) (i : Inst) : Bool :=
  if v.isReference = some true then i.isLoadOf v else i.isAddressOf v

def referenced? : Inst → Option Variable
  | loadLocal v => if v.isReference = some true then some v else none
  | loadLocalAddr v => if v.isReference = some true then none else some v
  | _ => none

/-- a load of the receiver -/
def isLoadOfThis : Inst → Bool
  | loadLocal v => v.isThis
  | _ => false

def stored? : Inst → Option Variable
  | storeLocal v _ => some v
  | _ => none

/-- the value stored to `v` -/
def storedTo? (v : Variable) : Inst → Option Inst
  | storeLocal w x => if w.same v then some x else none
  | _ => none

/-- the variable that a handler binds the exception to -/
def handled? : Inst → Option Variable
  | catchHandler v _ _ => some v
  | _ => none

/-! ## lengths and arithmetic -/

/-- the array whose length is taken as a `t` -/
def arrayLength? (t : StackType) : Inst → Option Inst
  | .arrayLength u a => if u = t then some a else none
  | _ => none

def isBinary (op : BinaryOperator) : Inst → Bool
  | binaryNumeric o _ _ _ _ => o == op
  | _ => false

def binary? : Inst → Option (BinaryOperator × Inst × Inst)
  | binaryNumeric op l r _ _ => some (op, l, r)
  | _ => none

/-- the operands of `op` -/
def binaryOf? (op : BinaryOperator) : Inst → Option (Inst × Inst)
  | binaryNumeric o l r _ _ => if o = op then some (l, r) else none
  | _ => none

end ILTree.Inst
