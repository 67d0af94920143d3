import ILTree.Ty
import ILTree.Text.Quoted

/-!
# Variables

* `Variable.same`     two variables are the same exactly if their ids are, whatever else differs;
* `Variable.isThis`   the receiver is the parameter with a negative index;
* `Variable.text`     the attached name, or else a word for the kind and the index;
* `Variable.countDistinct`   how many different variables a list holds.
-/

namespace ILTree

/-- where a variable comes from -/
inductive VariableKind where
  | localSlot | pinnedLocal | parameter | stackSlot | exceptionSlot
  deriving DecidableEq

instance : Vocabulary VariableKind where
  members := [.localSlot, .pinnedLocal, .parameter, .stackSlot, .exceptionSlot]
  complete k := by cases k <;> decide
  name
    | .localSlot => "Local"
    | .pinnedLocal => "PinnedLocal"
    | .parameter => "Parameter"
    | .stackSlot => "StackSlot"
    | .exceptionSlot => "ExceptionStackSlot"
  distinct := by decide

structure Variable where
  id : VariableId
  kind : VariableKind
  /-- the number among variables of its sort; negative for the receiver -/
  index : Int32
  ty : Ty
  /-- for display only -/
  name : Option String
  deriving DecidableEq

namespace Variable

/-- the index of the receiver -/
def thisIndex : Int32 := -1

def same (v w : Variable) : Bool := v.id == w.id

theorem same_iff (v w : Variable) : v.same w = true ↔ v.id = w.id := by simp [same]

def isThis (v : Variable) : Bool := v.kind == .parameter && v.index < 0

def isReference (v : Variable) : Option Bool := v.ty.isReference

/-- the number of different ids -/
def countDistinct (vs : List Variable) : Nat := (vs.map fun v => v.id).eraseDups.length

/-! ## texts -/

/-- the text of a variable without a name -/
def slotText (kind : VariableKind) (index : Int32) : String :=
  match kind with
  | .parameter => if index < 0 then "this" else "arg" ++ Int.repr index.toInt
  | .localSlot | .pinnedLocal => "loc" ++ Int.repr index.toInt
  | .stackSlot => "S_" ++ Int.repr index.toInt
  | .exceptionSlot => "E_" ++ Int.repr index.toInt

def text (v : Variable) : String := v.name.getD (slotText v.kind v.index)

def dump (v : Variable) : String :=
  Structured.record "IlVariable"
    [("id", v.id.text), ("kind", Vocabulary.name v.kind), ("index", Int.repr v.index.toInt),
      ("ty", v.ty.dump), ("name", Structured.option (v.name.map Quoted.text))]

end Variable

end ILTree
