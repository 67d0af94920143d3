import ILTree.Scope.Basic

/-!
# Requests to a scope

* `Request`      one operation on a scope, with its arguments;
* `Answer`       what was handed out or looked up, or the fault;
* `Scope.step`   one request; a refused one leaves the scope as it was;
* `Scope.run`    a list of requests, one after the other.
-/

namespace ILTree

inductive Request where
  | newLocal (ty : Ty)
  | newNamedLocal (ty : Ty) (name : String)
  | newPinnedLocal (ty : Ty)
  | newStackSlot (ty : Ty)
  | newExceptionVariable (ty : Ty)
  | declareThis (ty : Ty)
  | declareParameter (index : UInt16) (ty : Ty)
  | newBlock
  | newContainer (kind : ContainerKind)
  | lookUp (id : VariableId)
  deriving DecidableEq

inductive Answer where
  | var (v : Variable)
  | block (b : Block)
  | container (c : Container)
  | refused (fault : Fault)
  deriving DecidableEq

/-- the answer to a request for a variable that may be refused -/
def Answer.ofExcept : Except Fault Variable → Answer
  | .ok v => .var v
  | .error fault => .refused fault

theorem Answer.ofExcept_eq_refused {x : Except Fault Variable} {fault : Fault} :
    ofExcept x = .refused fault ↔ x = .error fault := by
  cases x <;> simp [ofExcept]

theorem Answer.ofExcept_ne_container (x : Except Fault Variable) (c : Container) :
    ofExcept x ≠ .container c := by
  cases x <;> simp [ofExcept]

namespace Scope

def step (s : Scope) : Request → Answer × Scope
  | .newLocal ty => (s.newLocal ty).map .var id
  | .newNamedLocal ty name => (s.newNamedLocal ty name).map .var id
  | .newPinnedLocal ty => (s.newPinnedLocal ty).map .var id
  | .newStackSlot ty => (s.newStackSlot ty).map .var id
  | .newExceptionVariable ty => (s.newExceptionVariable ty).map .var id
  | .declareThis ty => (s.declareThis ty).map .ofExcept id
  | .declareParameter index ty => (s.declareParameter index ty).map .ofExcept id
  | .newBlock => s.newBlock.map .block id
  | .newContainer kind => (s.newContainer kind).map .container id
  | .lookUp id => (.ofExcept (s.lookUp id), s)

/-- the answers in order, and the scope after the last request -/
def run (s : Scope) : List Request → List Answer × Scope
  | [] => ([], s)
  | r :: rs =>
    let (a, next) := s.step r
    let (as, last) := next.run rs
    (a :: as, last)

end Scope

end ILTree
