import ILTree.Proofs.Scope.Relabel

/-!
# A scope under one type and one name

Where a scope is told by counting, types and names only stand in the way.  So all of them are put
to one value; a name is replaced, not dropped.

* `Request.untyped`, `Answer.untyped`, `Scope.untyped`   all types and names replaced by one;
* `run_untyped`       a scope without them answers as the scope with them does, but for them.
-/

namespace ILTree

def Request.untyped : Request → Request
  | newLocal _ => newLocal .unknown
  | newNamedLocal _ _ => newNamedLocal .unknown ""
  | newPinnedLocal _ => newPinnedLocal .unknown
  | newStackSlot _ => newStackSlot .unknown
  | newExceptionVariable _ => newExceptionVariable .unknown
  | declareThis _ => declareThis .unknown
  | declareParameter index _ => declareParameter index .unknown
  | newBlock => newBlock
  | newContainer kind => newContainer kind
  | lookUp id => lookUp id

/-- a name is replaced, where there is one -/
def Variable.untyped (v : Variable) : Variable :=
  { v with ty := .unknown, name := v.name.map fun _ => "" }

def Answer.untyped : Answer → Answer
  | var v => var v.untyped
  | a => a

/-- one type and one name -/
def Labels.untyped : Labels := ⟨fun _ => .unknown, fun _ => some ""⟩

theorem Request.relabel_untyped (r : Request) : r.relabel .untyped = r.untyped := by
  cases r <;> rfl

theorem Variable.relabel_untyped (v : Variable) : v.relabel .untyped = v.untyped := by
  cases v with
  | mk id kind index ty name => cases name <;> rfl

theorem Answer.relabel_untyped (a : Answer) : a.relabel .untyped = a.untyped := by
  cases a with
  | var v => exact congrArg var v.relabel_untyped
  | _ => rfl

namespace Scope

def untyped (s : Scope) : Scope := { s with table := s.table.map Variable.untyped }

theorem relabel_untyped (s : Scope) : s.relabel .untyped = s.untyped := by
  rw [relabel, untyped, funext Variable.relabel_untyped]

theorem run_untyped (s : Scope) (rs : List Request) :
    s.untyped.run (rs.map Request.untyped) =
      ((s.run rs).1.map Answer.untyped, (s.run rs).2.untyped) := by
  have h := run_relabel .untyped s rs
  rw [funext Request.relabel_untyped, funext Answer.relabel_untyped] at h
  rw [← relabel_untyped, h, relabel_untyped]

end Scope

end ILTree
