import ILTree.Variable

/-!
# Scopes

The scope of a function owns its variables and hands out the handles that its instructions name.
Every operation gives what it hands out and the scope after it.

* `Scope.new`        no variables yet, and the body container of the function;
* `newLocal`, `newNamedLocal`, `newPinnedLocal`   locals, numbered in one sequence;
* `newStackSlot`, `newExceptionVariable`          each numbered in a sequence of its own;
* `newNamedLocal_eq`                              a name is all that a named local has more;
* `declareThis`, `declareParameter`               once for each index, or a fault;
* `declareAt_refused`                             with the fault the scope is as it was;
* `newBlock`, `newContainer`                      targets of branches and leaves;
* `lookUp`, `parameters`                          what was declared.
-/

namespace ILTree

structure Scope where
  /-- the variables in the order of declaration; the id of each is its position -/
  table : List Variable
  body : Container
  nextBlock : UInt32
  nextContainer : UInt32
  localCount : Int32
  stackSlotCount : Int32
  exceptionCount : Int32
  deriving DecidableEq

namespace Scope

def new : Scope where
  table := []
  body := ⟨0, .function⟩
  nextBlock := 0
  nextContainer := 1
  localCount := 0
  stackSlotCount := 0
  exceptionCount := 0

/-! ## variables -/

/-- the variable that gets the next id -/
def nextVariable (s : Scope) (kind : VariableKind) (index : Int32) (ty : Ty)
    (name : Option String) : Variable :=
  ⟨⟨s.table.length⟩, kind, index, ty, name⟩

def push (s : Scope) (v : Variable) : Variable × Scope :=
  (v, { s with table := s.table ++ [v] })

def pushLocal (s : Scope) (kind : VariableKind) (ty : Ty) (name : Option String) :
    Variable × Scope :=
  { s with localCount := s.localCount + 1 }.push (s.nextVariable kind s.localCount ty name)

def newLocal (s : Scope) (ty : Ty) : Variable × Scope := s.pushLocal .localSlot ty none

def newNamedLocal (s : Scope) (ty : Ty) (name : String) : Variable × Scope :=
  s.pushLocal .localSlot ty (some name)

def newPinnedLocal (s : Scope) (ty : Ty) : Variable × Scope := s.pushLocal .pinnedLocal ty none

/-- A local gets the same id and number with a name as without one, and leaves the same counters;
the name is all that differs, in the variable and in the table. -/
theorem newNamedLocal_eq (s : Scope) (ty : Ty) (name : String) :
    let (v, after) := s.newLocal ty
    let named : Variable := { v with name := some name }
    s.newNamedLocal ty name = (named, { after with table := s.table ++ [named] }) := rfl

def newStackSlot (s : Scope) (ty : Ty) : Variable × Scope :=
  { s with stackSlotCount := s.stackSlotCount + 1 }.push
    (s.nextVariable .stackSlot s.stackSlotCount ty none)

/-- what a catch handler binds the exception to -/
def newExceptionVariable (s : Scope) (ty : Ty) : Variable × Scope :=
  { s with exceptionCount := s.exceptionCount + 1 }.push
    (s.nextVariable .exceptionSlot s.exceptionCount ty none)

/-! ## parameters -/

def hasParameter (s : Scope) (index : Int32) : Bool :=
  s.table.any fun v => v.kind == .parameter && v.index == index

/-- refuses an index that is taken, and changes nothing then -/
def declareAt (s : Scope) (index : Int32) (ty : Ty) : Except Fault Variable × Scope :=
  if s.hasParameter index then (.error (.duplicateParameter index), s)
  else (s.push (s.nextVariable .parameter index ty none)).map .ok id

def declareThis (s : Scope) (ty : Ty) : Except Fault Variable × Scope :=
  s.declareAt Variable.thisIndex ty

def declareParameter (s : Scope) (index : UInt16) (ty : Ty) : Except Fault Variable × Scope :=
  s.declareAt (Int32.ofNat index.toNat) ty

/-- A declaration of a parameter touches nothing but the table. -/
theorem declareAt_frame (s : Scope) (index : Int32) (ty : Ty) :
    (s.declareAt index ty).2 = { s with table := (s.declareAt index ty).2.table } := by
  unfold declareAt
  split <;> rfl

/-- A refusal names the index, and the scope stays as it was. -/
theorem declareAt_refused {s : Scope} {index : Int32} {ty : Ty} {fault : Fault}
    (h : (s.declareAt index ty).1 = .error fault) :
    fault = .duplicateParameter index ∧ (s.declareAt index ty).2 = s := by
  by_cases htaken : s.hasParameter index = true
  · rw [declareAt, if_pos htaken] at h ⊢
    exact ⟨(Except.error.inj h).symm, rfl⟩
  · rw [declareAt, if_neg htaken] at h
    cases h

/-! ## targets -/

def newBlock (s : Scope) : Block × Scope :=
  (⟨s.nextBlock⟩, { s with nextBlock := s.nextBlock + 1 })

/-- leaving a container of the kind `function`, the body of a nested function, returns as well -/
def newContainer (s : Scope) (kind : ContainerKind) : Container × Scope :=
  (⟨s.nextContainer, kind⟩, { s with nextContainer := s.nextContainer + 1 })

/-! ## what was declared -/

def lookUp (s : Scope) (id : VariableId) : Except Fault Variable :=
  match s.table[id.index]? with
  | some v => .ok v
  | none => .error (.unknownVariable id)

/-- the receiver is one of them -/
def parameters (s : Scope) : List Variable :=
  s.table.filter fun v => v.kind == .parameter

def dump (s : Scope) : String :=
  Structured.record "IlFunction"
    [("variables", Structured.list (s.table.map Variable.dump)),
      ("body", s.body.dump),
      ("next_block", Nat.repr s.nextBlock.toNat),
      ("next_container", Nat.repr s.nextContainer.toNat),
      ("num_locals", Int.repr s.localCount.toInt),
      ("num_stack_slots", Int.repr s.stackSlotCount.toInt),
      ("num_exception_slots", Int.repr s.exceptionCount.toInt)]

end Scope

end ILTree
