import ILTree.Shape.Node

/-!
# Conditions and boolean idioms

Short-circuit operators are conditionals with a constant arm, `a && b` being `if (a) b else 0`
and `a || b` being `if (a) 1 else b`.  The right operand passes through unchanged, whatever
integer it is.  An equality is a comparison or a negated comparison of the opposite kind.

* conditionals   `ifElse?`, `ifThen?`;
* operators      `and?`, `or?`, `not?`;
* comparisons    `comparison?`, and through one negation `equals?`, `notEquals?`.
-/

namespace ILTree.Inst

/-! ## conditionals -/

/-- condition and both arms -/
def ifElse? : Inst → Option (Inst × Inst × Inst)
  | ifElse c t f => some (c, t, f)
  | _ => none

/-- condition and arm, if there is no else arm -/
def ifThen? : Inst → Option (Inst × Inst)
  | ifElse c t f => if f.isNop then some (c, t) else none
  | _ => none

/-! ## operators -/

def and? : Inst → Option (Inst × Inst)
  | ifElse c t f => if f.isI4 0 then some (c, t) else none
  | _ => none

def or? : Inst → Option (Inst × Inst)
  | ifElse c t f => if t.isI4 1 then some (c, f) else none
  | _ => none

def not? : Inst → Option Inst
  | logicNot x => some x
  | _ => none

/-! ## comparisons -/

/-- the operands of a comparison of kind `k`, of either sign -/
def comparison? (k : Comparison) : Inst → Option (Inst × Inst)
  | compare j _ l r => if j = k then some (l, r) else none
  | _ => none

/-- the same, also where it is the opposite one that is negated -/
def comparisonOrNegated? (k : Comparison) : Inst → Option (Inst × Inst)
  | logicNot x => x.comparison? k.negate
  | i => i.comparison? k

def equals? (i : Inst) : Option (Inst × Inst) := i.comparisonOrNegated? .equality

def notEquals? (i : Inst) : Option (Inst × Inst) := i.comparisonOrNegated? .inequality

end ILTree.Inst
