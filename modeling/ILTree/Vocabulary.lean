/-!
# Closed vocabularies

A vocabulary is a finite type whose members have names, no two of them the same one.

* `Vocabulary.members`   all members, in the order in which they are listed;
* `Vocabulary.name`      the name of a member;
* `Vocabulary.ofName?`   the member of a name.
-/

namespace ILTree

class Vocabulary (α : Type) where
  members : List α
  complete : ∀ x, x ∈ members
  name : α → String
  distinct : (members.map name).Nodup

/-- the member with this name -/
def Vocabulary.ofName? {α : Type} [Vocabulary α] (s : String) : Option α :=
  (members : List α).find? fun x => name x == s

end ILTree
