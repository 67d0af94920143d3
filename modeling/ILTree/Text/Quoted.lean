import ILTree.Text.Hex
import ILTree.Text.Unprintable
import ILTree.Text.GraphemeExtend
import ILTree.Text.DefaultIgnorable

/-!
# Quoted text

A text between double quotes, on one line and without characters that could not be seen.

* `Quoted.encode`   the text between the quotes, character by character (`Quoted.escape`);
* `Quoted.text`     the whole, quotes included.
-/

namespace ILTree.Quoted

/-- the two halfwidth katakana sound marks, the only letters that extend the character before
them; they take up room of their own -/
def isSoundMark (c : Char) : Bool := c == '\uff9e' || c == '\uff9f'

/-- a character that would not be seen, or not stand alone, where it is printed -/
def isHidden (c : Char) : Bool :=
  if c.toNat < 0x80 then c.toNat < 0x20 || c.toNat == 0x7f
  else Unprintable.mem c || DefaultIgnorable.mem c || GraphemeExtend.mem c && !isSoundMark c

/-- a character by its number: `\u`, then the number in braces -/
def byNumber (c : Char) : List Char := ['\\', 'u', '\x7b'] ++ Hex.short c.toNat ++ ['\x7d']

def escape (c : Char) : List Char :=
  match c with
  | '\x00' => ['\\', '0']
  | '\t' => ['\\', 't']
  | '\n' => ['\\', 'n']
  | '\r' => ['\\', 'r']
  | '"' => ['\\', '"']
  | '\\' => ['\\', '\\']
  | c => if isHidden c then byNumber c else [c]

def encode (cs : List Char) : List Char := cs.flatMap escape

def text (s : String) : String := String.ofList ('"' :: encode s.toList ++ ['"'])

end ILTree.Quoted
