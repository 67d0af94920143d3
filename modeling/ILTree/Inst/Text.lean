import ILTree.Inst.Basic
import ILTree.Double.Layout

/-!
# Instructions as text

The mnemonic, then what the instruction carries, then its operands in parentheses.  Absent
operands (`nop` as else arm, as value of a `leave`, as filter) are left out together with the
words around them.

* `Inst.text`      the text of an instruction;
* `Inst.textAll`   the texts of a list of instructions, one by one.
-/

namespace ILTree.Inst

/-- `text` if it is so, nothing else -/
def textIf (b : Bool) (text : String) : String := if b then text else ""

/-- what is said about an operand that may be absent: nothing for `nop` -/
def unlessNop (i : Inst) (text : String) : String :=
  match i with
  | nop => ""
  | _ => text

mutual

def text : Inst → String
  | nop => "nop"
  | constI4 n => "ldc.i4 " ++ Int.repr n.toInt
  | constI8 n => "ldc.i8 " ++ Int.repr n.toInt
  | constF8 x => "ldc.f8 " ++ x.text
  | constNull => "ldnull"
  | constString s => "ldstr " ++ Quoted.text s
  | loadLocal v => "ldloc " ++ v.text
  | loadLocalAddr v => "ldloca " ++ v.text
  | storeLocal v x => "stloc " ++ v.text ++ "(" ++ x.text ++ ")"
  | arrayLength t x => "ldlen." ++ t.text ++ "(" ++ x.text ++ ")"
  | leave c x => "leave " ++ c.text ++ unlessNop x (" (" ++ x.text ++ ")")
  | branch b => "br " ++ b.text
  | ifElse c x y => "if (" ++ c.text ++ ") " ++ x.text ++ unlessNop y (" else " ++ y.text)
  | logicNot x => "logic.not(" ++ x.text ++ ")"
  | compare k _ l r => "comp(" ++ l.text ++ " " ++ k.text ++ " " ++ r.text ++ ")"
  | catchHandler v f b =>
    "catch " ++ v.text ++ unlessNop f (" when (" ++ f.text ++ ")") ++ " " ++ b.text
  | loadIndirect x t => "ldobj " ++ t.text ++ "(" ++ x.text ++ ")"
  | storeIndirect a x t => "stobj " ++ t.text ++ "(" ++ a.text ++ ", " ++ x.text ++ ")"
  | loadFieldAddr x f => "ldflda " ++ f.text ++ "(" ++ x.text ++ ")"
  | loadStaticFieldAddr f => "ldsflda " ++ f.text
  | loadElementAddr a is t =>
    "ldelema " ++ t.text ++ "(" ++ ", ".intercalate (a.text :: textAll is) ++ ")"
  | binaryNumeric op l r ovf s =>
    "binary." ++ op.text ++ textIf ovf ".ovf" ++ textIf (s == .unsigned) ".un" ++
      "(" ++ l.text ++ ", " ++ r.text ++ ")"
  | conv x k t ovf => "conv." ++ k.text ++ textIf ovf ".ovf" ++ " " ++ t.text ++
      "(" ++ x.text ++ ")"
  | call m args => "call " ++ m.text ++ "(" ++ ", ".intercalate (textAll args) ++ ")"
  | throw x => "throw(" ++ x.text ++ ")"

def textAll : List Inst → List String
  | [] => []
  | i :: is => i.text :: textAll is

end

theorem textAll_eq (is : List Inst) : textAll is = is.map text := by
  induction is with
  | nil => rfl
  | cons i is ih => rw [textAll, ih, List.map_cons]

end ILTree.Inst
