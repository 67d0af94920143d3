/-!
# Ascending lists

* `ascending`   the members of a list in ascending order, each once.
-/

namespace ILTree

section
variable {α : Type} [LT α] [DecidableLT α]

/-- `x` in its place in an ascending list, unless it is there already -/
def insertAscending (x : α) : List α → List α
  | [] => [x]
  | y :: ys =>
    if x < y then x :: y :: ys
    else if y < x then y :: insertAscending x ys
    else y :: ys

def ascending (xs : List α) : List α := xs.foldr insertAscending []

end

end ILTree
