/-!
# Double-precision numbers

A double is its 64 bits: sign, 11 bits of exponent, 52 bits of fraction.

* `Double.same`          comparison as numbers: no NaN equals anything, the two zeros are equal;
* `Double.significand`, `Double.power`   the magnitude of a finite double is
                         `significand * 2 ^ power`.
-/

namespace ILTree

structure Double where
  bits : UInt64
  deriving DecidableEq

namespace Double

/-! ## fields -/

def isNegative (d : Double) : Bool := d.bits >>> 63 == 1

def exponentField (d : Double) : Nat := ((d.bits >>> 52) &&& 0x7ff).toNat

def fraction (d : Double) : Nat := (d.bits &&& 0xfffffffffffff).toNat

/-! ## sorts of doubles -/

def isNaN (d : Double) : Bool := d.exponentField == 0x7ff && d.fraction != 0

def isInfinite (d : Double) : Bool := d.exponentField == 0x7ff && d.fraction == 0

def isZero (d : Double) : Bool := d.exponentField == 0 && d.fraction == 0

/-! ## comparison -/

def same (a b : Double) : Bool :=
  !a.isNaN && !b.isNaN && (a.bits == b.bits || a.isZero && b.isZero)

/-! ## magnitude of a finite double -/

def significand (d : Double) : Nat :=
  if d.exponentField = 0 then d.fraction else 0x10000000000000 + d.fraction

def power (d : Double) : Int :=
  if d.exponentField = 0 then -1074 else (d.exponentField : Int) - 1075

/-- The next double toward zero is only half as far away as the next one outward: so it is for
the powers of two, but for the least normal one. -/
def isNarrowBelow (d : Double) : Bool := d.fraction == 0 && 1 < d.exponentField

end Double

end ILTree
