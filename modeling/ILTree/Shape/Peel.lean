import ILTree.Inst.Basic

/-!
# Looking through conversions

* `Inst.peel k`   what is left of an instruction without the unchecked conversions of kind `k`
                  at its root.
-/

namespace ILTree.Inst

/-- stops at a checked conversion and at one of another kind -/
def peel (k : Conversion) : Inst → Inst
  | conv x j t false => if j = k then x.peel k else conv x j t false
  | i => i

end ILTree.Inst
