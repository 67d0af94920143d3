import ILTree.Double.Shortest

/-!
# How a double is written

The digits are the fewest that read back; a layout says where the point and the exponent go.

* `Layout.positional`   all places written out, however many, and no point in whole numbers;
* `Layout.general`      whole numbers marked by `.0`; very large and very small ones with an
                        exponent after one digit and a fraction;
* `Layout.write`        a double in a layout.
-/

namespace ILTree

structure Layout where
  /-- what follows the digits of a whole number -/
  wholeMark : String
  /-- the powers of ten of the first digit for which all places are written -/
  isPositional : Int → Bool

namespace Layout

def positional : Layout where
  wholeMark := ""
  isPositional _ := true

def general : Layout where
  wholeMark := ".0"
  isPositional e := -4 ≤ e && e < 16

/-! ## the two forms -/

def zeros (n : Nat) : List Char := List.replicate n '0'

/-- `digits * 10 ^ exponent` with all its places -/
def places (l : Layout) (digits : List Char) (exponent : Int) : String :=
  let whole := (digits.length : Int) + exponent
  if 0 ≤ exponent then String.ofList (digits ++ zeros exponent.toNat) ++ l.wholeMark
  else if 0 < whole then
    String.ofList (digits.take whole.toNat ++ '.' :: digits.drop whole.toNat)
  else String.ofList ('0' :: '.' :: zeros (-whole).toNat ++ digits)

/-- one digit, the others after a point if there are any, and the power of ten of the first -/
def scientific (digits : List Char) (power : Int) : String :=
  let rest := digits.drop 1
  let fraction := if rest.isEmpty then [] else '.' :: rest
  String.ofList (digits.take 1 ++ fraction) ++ "e" ++ Int.repr power

/-! ## doubles -/

def magnitude (l : Layout) (d : Double) : String :=
  if d.isInfinite then "inf"
  else if d.isZero then "0" ++ l.wholeMark
  else
    let decimal := d.shortest
    let digits := (Nat.repr decimal.digits).toList
    let power := (digits.length : Int) - 1 + decimal.exponent
    if l.isPositional power then l.places digits decimal.exponent else scientific digits power

/-- NaN has no sign, a zero has -/
def write (l : Layout) (d : Double) : String :=
  if d.isNaN then "NaN" else (if d.isNegative then "-" else "") ++ l.magnitude d

end Layout

namespace Double

def text (d : Double) : String := Layout.positional.write d

def dump (d : Double) : String := Layout.general.write d

end Double

end ILTree
