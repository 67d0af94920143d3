import ILTree.Proofs.Scope.Table

/-!
# Types and names do not matter to a scope

A scope copies the types and the names it is given into its variables and never looks at them.  A
local that is asked for with a name is numbered like any other.

* `Labels`            other types, and other names or none;
* `Request.relabel`, `Answer.relabel`, `Scope.relabel`   all types and names replaced;
* `step_relabel`, `run_relabel`   a scope answers as before, but for them;
* `Request.unnamed`, `Answer.unnamed`, `Scope.unnamed`   all names dropped, types as they are;
* `run_unnamed`       so it makes no difference whether names are asked for.
-/

namespace ILTree

/-- what stands for the types and the names of variables; a name may be dropped -/
structure Labels where
  ty : Ty → Ty
  name : String → Option String

/-- without a name, a request for a named local is one for a local -/
def Request.relabel (l : Labels) : Request → Request
  | newLocal ty => newLocal (l.ty ty)
  | newNamedLocal ty name =>
    match l.name name with
    | some other => newNamedLocal (l.ty ty) other
    | none => newLocal (l.ty ty)
  | newPinnedLocal ty => newPinnedLocal (l.ty ty)
  | newStackSlot ty => newStackSlot (l.ty ty)
  | newExceptionVariable ty => newExceptionVariable (l.ty ty)
  | declareThis ty => declareThis (l.ty ty)
  | declareParameter index ty => declareParameter index (l.ty ty)
  | newBlock => newBlock
  | newContainer kind => newContainer kind
  | lookUp id => lookUp id

def Variable.relabel (l : Labels) (v : Variable) : Variable :=
  { v with ty := l.ty v.ty, name := v.name.bind l.name }

def Answer.relabel (l : Labels) : Answer → Answer
  | var v => var (v.relabel l)
  | a => a

namespace Scope

def relabel (l : Labels) (s : Scope) : Scope := { s with table := s.table.map (·.relabel l) }

section
variable (l : Labels) (s : Scope)

theorem nextVariable_relabel (kind : VariableKind) (index : Int32) (ty : Ty)
    (name : Option String) :
    (s.relabel l).nextVariable kind index (l.ty ty) (name.bind l.name) =
      (s.nextVariable kind index ty name).relabel l := by
  rw [nextVariable, relabel, List.length_map]
  rfl

theorem push_relabel (v : Variable) :
    ((s.relabel l).push (v.relabel l)).2 = (s.push v).2.relabel l := by
  rw [push, push, relabel, relabel, List.map_append, List.map_singleton]

/-- the variable that gets the next id in `s`, put into `t`, which is `s` with its counters moved -/
theorem pushed_relabel (t : Scope) (kind : VariableKind) (index : Int32) (ty : Ty)
    (name : Option String) :
    (Answer.var ((s.relabel l).nextVariable kind index (l.ty ty) (name.bind l.name)),
        ((t.relabel l).push
          ((s.relabel l).nextVariable kind index (l.ty ty) (name.bind l.name))).2) =
      ((Answer.var (s.nextVariable kind index ty name)).relabel l,
        (t.push (s.nextVariable kind index ty name)).2.relabel l) := by
  rw [nextVariable_relabel, push_relabel]
  rfl

theorem hasParameter_relabel (index : Int32) :
    (s.relabel l).hasParameter index = s.hasParameter index := by
  rw [hasParameter, relabel, List.any_map]
  rfl

theorem declareAt_relabel (index : Int32) (ty : Ty) :
    ((s.relabel l).declareAt index (l.ty ty)).map Answer.ofExcept id =
      ((s.declareAt index ty).map Answer.ofExcept id).map (·.relabel l) (·.relabel l) := by
  rw [map_declareAt, map_declareAt, hasParameter_relabel]
  split
  · rfl
  · exact pushed_relabel l s s .parameter index ty none

theorem lookUp_relabel (id : VariableId) :
    Answer.ofExcept ((s.relabel l).lookUp id) = (Answer.ofExcept (s.lookUp id)).relabel l := by
  rw [lookUp, lookUp, relabel, List.getElem?_map]
  cases s.table[id.index]? <;> rfl

theorem step_relabel (r : Request) :
    (s.relabel l).step (r.relabel l) = ((s.step r).1.relabel l, (s.step r).2.relabel l) := by
  -- the scope with one more local; it is the same one with a name and without
  have hlocal := pushed_relabel l s { s with localCount := s.localCount + 1 }
  cases r with
  | newLocal ty => exact hlocal _ _ ty none
  | newNamedLocal ty name =>
    have hnamed := hlocal .localSlot s.localCount ty (some name)
    rw [Option.bind_some] at hnamed
    rw [Request.relabel]
    cases hname : l.name name with
    | some other =>
      rw [hname] at hnamed
      exact hnamed
    | none =>
      rw [hname] at hnamed
      exact hnamed
  | newPinnedLocal ty => exact hlocal _ _ ty none
  | newStackSlot ty =>
    exact pushed_relabel l s { s with stackSlotCount := s.stackSlotCount + 1 } _ _ ty none
  | newExceptionVariable ty =>
    exact pushed_relabel l s { s with exceptionCount := s.exceptionCount + 1 } _ _ ty none
  | declareThis ty => exact declareAt_relabel l s _ ty
  | declareParameter index ty => exact declareAt_relabel l s _ ty
  | newBlock => rfl
  | newContainer kind => rfl
  | lookUp id => exact Prod.ext (lookUp_relabel l s id) rfl

theorem run_relabel (rs : List Request) :
    (s.relabel l).run (rs.map (·.relabel l)) =
      ((s.run rs).1.map (·.relabel l), (s.run rs).2.relabel l) := by
  induction rs generalizing s with
  | nil => rfl
  | cons r rs ih => rw [List.map_cons, run_cons, step_relabel, ih, run_cons, List.map_cons]

end

end Scope

/-! ## without names -/

/-- no names, and types as they are -/
def Labels.unnamed : Labels := ⟨id, fun _ => none⟩

def Request.unnamed : Request → Request
  | newNamedLocal ty _ => newLocal ty
  | r => r

def Variable.unnamed (v : Variable) : Variable := { v with name := none }

def Answer.unnamed : Answer → Answer
  | var v => var v.unnamed
  | a => a

theorem Request.relabel_unnamed (r : Request) : r.relabel .unnamed = r.unnamed := by
  cases r <;> rfl

theorem Variable.relabel_unnamed (v : Variable) : v.relabel .unnamed = v.unnamed := by
  cases v with
  | mk id kind index ty name => cases name <;> rfl

theorem Answer.relabel_unnamed (a : Answer) : a.relabel .unnamed = a.unnamed := by
  cases a with
  | var v => exact congrArg var v.relabel_unnamed
  | _ => rfl

namespace Scope

def unnamed (s : Scope) : Scope := { s with table := s.table.map Variable.unnamed }

theorem relabel_unnamed (s : Scope) : s.relabel .unnamed = s.unnamed := by
  rw [relabel, unnamed, funext Variable.relabel_unnamed]

/-- Whether names are asked for makes no difference to anything but the names. -/
theorem run_unnamed (s : Scope) (rs : List Request) :
    s.unnamed.run (rs.map Request.unnamed) =
      ((s.run rs).1.map Answer.unnamed, (s.run rs).2.unnamed) := by
  have h := run_relabel .unnamed s rs
  rw [funext Request.relabel_unnamed, funext Answer.relabel_unnamed] at h
  rw [← relabel_unnamed, h, relabel_unnamed]

theorem parameters_unnamed (s : Scope) :
    s.unnamed.parameters = s.parameters.map Variable.unnamed := by
  rw [parameters, parameters, unnamed, List.filter_map]
  rfl

end Scope

end ILTree
