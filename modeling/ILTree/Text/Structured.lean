/-!
# Structured text

How a value is spelled out part by part: a name with its parts after it.

* `Structured.record`   a name and labelled parts in braces;
* `Structured.tuple`    a name and bare parts in parentheses;
* `Structured.list`     parts in brackets;
* `Structured.option`   `None`, or the value inside `Some`;
* `Structured.bool`     `true` and `false`.
-/

namespace ILTree.Structured

/-- the texts one after the other, with a comma and a blank between two of them -/
def commas (xs : List String) : String := ", ".intercalate xs

def record (name : String) (fields : List (String × String)) : String :=
  name ++ " \x7b " ++ commas (fields.map fun f => f.1 ++ ": " ++ f.2) ++ " \x7d"

def tuple (name : String) (parts : List String) : String := name ++ "(" ++ commas parts ++ ")"

def list (parts : List String) : String := "[" ++ commas parts ++ "]"

def option : Option String → String
  | none => "None"
  | some x => tuple "Some" [x]

def bool (b : Bool) : String := if b then "true" else "false"

end ILTree.Structured
