import ILTree.Vocabulary
import ILTree.Text.Structured

/-!
# Handles

The things a scope numbers: variables, blocks and containers.  A handle is a plain value; who
gave it out is not recorded.

* `VariableId`      a position in the variable table of one scope;
* `Block`           the target of a branch;
* `Container`       the target of a `leave`, with what it structures;
* `Container.isFunctionBody`   leaving such a container returns from a function.
-/

namespace ILTree

/-! ## variable ids -/

structure VariableId where
  index : Nat
  deriving DecidableEq

namespace VariableId

instance : LT VariableId := ⟨fun a b => a.index < b.index⟩

theorem lt_def (a b : VariableId) : a < b ↔ a.index < b.index := Iff.rfl

instance : DecidableLT VariableId := fun a b => inferInstanceAs (Decidable (a.index < b.index))

def text (v : VariableId) : String := "V_" ++ Nat.repr v.index

end VariableId

/-! ## blocks -/

structure Block where
  id : UInt32
  deriving DecidableEq

namespace Block

instance : LT Block := ⟨fun a b => a.id < b.id⟩

theorem lt_def (a b : Block) : a < b ↔ a.id < b.id := Iff.rfl

instance : DecidableLT Block := fun a b => inferInstanceAs (Decidable (a.id < b.id))

def text (b : Block) : String := "B" ++ Nat.repr b.id.toNat

def dump (b : Block) : String := Structured.tuple "Block" [Nat.repr b.id.toNat]

end Block

/-! ## containers -/

/-- what a container structures -/
inductive ContainerKind where
  | function | block | loop | switch
  deriving DecidableEq

instance : Vocabulary ContainerKind where
  members := [.function, .block, .loop, .switch]
  complete k := by cases k <;> decide
  name
    | .function => "Function"
    | .block => "Block"
    | .loop => "Loop"
    | .switch => "Switch"
  distinct := by decide

/-- Two containers are equal only if both number and kind are. -/
structure Container where
  id : UInt32
  kind : ContainerKind
  deriving DecidableEq

namespace Container

def isFunctionBody (c : Container) : Bool := c.kind == .function

def text (c : Container) : String := "C" ++ Nat.repr c.id.toNat

def dump (c : Container) : String :=
  Structured.record "BlockContainer"
    [("id", Nat.repr c.id.toNat), ("kind", Vocabulary.name c.kind)]

end Container

end ILTree
