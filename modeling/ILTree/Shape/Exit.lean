import ILTree.Inst.Basic

/-!
# Shapes that transfer control

* branches   `branch?`, `isBranchTo`;
* leaves     `leave?`, `leaveTo?`, and without a value `voidLeave?`, `isVoidLeaveTo`;
* returns    `leavesFunction`, `returned?`: a return leaves the body of a function.
-/

namespace ILTree.Inst

/-! ## branches -/

def branch? : Inst → Option Block
  | branch b => some b
  | _ => none

def isBranchTo (b : Block) : Inst → Bool
  | branch c => c == b
  | _ => false

/-! ## leaves -/

def leave? : Inst → Option (Container × Inst)
  | leave c x => some (c, x)
  | _ => none

/-- the value that goes out of `c` -/
def leaveTo? (c : Container) : Inst → Option Inst
  | leave d x => if d = c then some x else none
  | _ => none

def voidLeave? : Inst → Option Container
  | leave c nop => some c
  | _ => none

def isVoidLeaveTo (c : Container) (i : Inst) : Bool := i.voidLeave? == some c

/-! ## returns -/

def leavesFunction : Inst → Bool
  | leave c _ => c.isFunctionBody
  | _ => false

/-- the value returned; `nop` if none is -/
def returned? : Inst → Option Inst
  | leave c x => if c.isFunctionBody then some x else none
  | _ => none

end ILTree.Inst
