import ILTree.Inst.Children

/-!
# Comparison of trees

Two instructions are the same if their heads are and their children are, one by one.  Doubles
compare as numbers, so a tree that holds a NaN differs from itself.

* `Inst.same`      the comparison;
* `Inst.same_eq`   the rule above.
-/

namespace ILTree.Inst

/-- each test on the instruction in its place, and as many of the ones as of the others -/
def agree : List (Inst → Bool) → List Inst → Bool
  | [], [] => true
  | p :: ps, i :: is => p i && agree ps is
  | _, _ => false

def same : Inst → Inst → Bool :=
  fold fun i sames j => i.head.same j.head && agree sames j.children

theorem same_eq (i j : Inst) :
    i.same j = (i.head.same j.head && agree (i.children.map same) j.children) := by
  rw [same, fold_eq, ← same]

end ILTree.Inst
