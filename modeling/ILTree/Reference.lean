import ILTree.Fault

/-!
# References into metadata

A type, a method or a field, each named by its token; two references of one sort are the same
exactly if their tokens are.

* `FieldRef.ofToken`   the only checked way in: the token's table must be able to name a field.
-/

namespace ILTree

/-! ## types -/

structure TypeRef where
  token : Token
  deriving DecidableEq

namespace TypeRef

def text (r : TypeRef) : String := "type(" ++ r.token.text ++ ")"

def dump (r : TypeRef) : String := Structured.tuple "TypeRef" [r.token.dump]

end TypeRef

/-! ## methods -/

structure MethodRef where
  token : Token
  deriving DecidableEq

namespace MethodRef

def text (r : MethodRef) : String := "method(" ++ r.token.text ++ ")"

def dump (r : MethodRef) : String := Structured.tuple "MethodRef" [r.token.dump]

end MethodRef

/-! ## fields -/

structure FieldRef where
  token : Token
  deriving DecidableEq

namespace FieldRef

/-- refuses a token whose table holds no fields -/
def ofToken (t : Token) : Except Fault FieldRef :=
  if t.isFieldLike then .ok ⟨t⟩ else .error (.notAField t)

def text (r : FieldRef) : String := "field(" ++ r.token.text ++ ")"

def dump (r : FieldRef) : String := Structured.tuple "FieldRef" [r.token.dump]

end FieldRef

end ILTree
