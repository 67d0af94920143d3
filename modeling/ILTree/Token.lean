import ILTree.Text.Hex

/-!
# Metadata tokens

A token names a row of a metadata table: the high byte is the table, the low 24 bits are the
row.  Nothing here looks the row up; tokens are only compared.

* `Token.ofParts`       the token of a table and a row (higher bits of the row are dropped);
* `Token.table`, `Token.row`   its two parts;
* `Token.isFieldLike`   whether the table is one whose rows can name a field;
* `Token.text`, `Token.dump`   the number alone, and the number with its parts.
-/

namespace ILTree

structure Token where
  raw : UInt32
  deriving DecidableEq

namespace Token

/-! ## tables whose rows can name a field -/

def fieldTable : UInt8 := 0x04
def memberRefTable : UInt8 := 0x0A

/-! ## parts -/

/-- the token of row `row` of `table`; only the low 24 bits of `row` count -/
def ofParts (table : UInt8) (row : UInt32) : Token :=
  ⟨(table.toUInt32 <<< 24) ||| (row &&& 0x00FFFFFF)⟩

/-- the high byte -/
def table (t : Token) : UInt8 := (t.raw >>> 24).toUInt8

/-- the low 24 bits -/
def row (t : Token) : UInt32 := t.raw &&& 0x00FFFFFF

/-- the null token names nothing -/
def isNull (t : Token) : Bool := t.raw == 0

def isFieldLike (t : Token) : Bool := t.table == fieldTable || t.table == memberRefTable

/-! ## order: by number -/

instance : LT Token := ⟨fun a b => a.raw < b.raw⟩

theorem lt_def (a b : Token) : a < b ↔ a.raw < b.raw := Iff.rfl

instance : DecidableLT Token := fun a b => inferInstanceAs (Decidable (a.raw < b.raw))

/-! ## texts -/

/-- `0x` and eight hexadecimal digits -/
def text (t : Token) : String := "0x" ++ String.ofList (Hex.fixed 8 t.raw.toNat)

/-- the number, the table in hexadecimal, and the row in decimal -/
def dump (t : Token) : String :=
  "Token(" ++ t.text ++ ", table: 0x" ++ String.ofList (Hex.fixed 2 t.table.toNat) ++
    ", row: " ++ Nat.repr t.row.toNat ++ ")"

end Token

end ILTree
