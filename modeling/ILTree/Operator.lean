import ILTree.Vocabulary

/-!
# Operators and their tags

The closed vocabularies that instructions carry, each with its names and its texts.

* `StackType`        what a value is on the evaluation stack;
* `Comparison`       the six comparisons; `Comparison.negate` gives the opposite one;
* `BinaryOperator`   arithmetic and bitwise operators;
* `Sign`             whether operands count as unsigned;
* `Conversion`       what a `conv` does to its operand.
-/

namespace ILTree

/-! ## stack types -/

inductive StackType where
  | unknown | i4 | i | i8 | f4 | f8 | o | ref | void
  deriving DecidableEq

namespace StackType

/-- the stack type of a value not looked at yet -/
instance : Inhabited StackType := ⟨unknown⟩

instance : Vocabulary StackType where
  members := [unknown, i4, i, i8, f4, f8, o, ref, void]
  complete t := by cases t <;> decide
  name
    | unknown => "Unknown"
    | i4 => "I4"
    | i => "I"
    | i8 => "I8"
    | f4 => "F4"
    | f8 => "F8"
    | o => "O"
    | ref => "Ref"
    | void => "Void"
  distinct := by decide

def text : StackType → String
  | unknown => "?"
  | i4 => "i4"
  | i => "i"
  | i8 => "i8"
  | f4 => "f4"
  | f8 => "f8"
  | o => "o"
  | ref => "ref"
  | void => "void"

end StackType

/-! ## comparisons -/

inductive Comparison where
  | equality | inequality | lessThan | lessThanOrEqual | greaterThan | greaterThanOrEqual
  deriving DecidableEq

namespace Comparison

instance : Vocabulary Comparison where
  members := [equality, inequality, lessThan, lessThanOrEqual, greaterThan, greaterThanOrEqual]
  complete k := by cases k <;> decide
  name
    | equality => "Equality"
    | inequality => "Inequality"
    | lessThan => "LessThan"
    | lessThanOrEqual => "LessThanOrEqual"
    | greaterThan => "GreaterThan"
    | greaterThanOrEqual => "GreaterThanOrEqual"
  distinct := by decide

def text : Comparison → String
  | equality => "=="
  | inequality => "!="
  | lessThan => "<"
  | lessThanOrEqual => "<="
  | greaterThan => ">"
  | greaterThanOrEqual => ">="

/-- the comparison with the opposite answer on the same operands -/
def negate : Comparison → Comparison
  | equality => inequality
  | inequality => equality
  | lessThan => greaterThanOrEqual
  | lessThanOrEqual => greaterThan
  | greaterThan => lessThanOrEqual
  | greaterThanOrEqual => lessThan

theorem negate_negate (k : Comparison) : k.negate.negate = k := by cases k <;> rfl

def isEqualityLike : Comparison → Bool
  | equality | inequality => true
  | _ => false

end Comparison

/-! ## binary operators -/

inductive BinaryOperator where
  | add | sub | mul | div | rem | bitAnd | bitOr | bitXor | shiftLeft | shiftRight
  deriving DecidableEq

namespace BinaryOperator

instance : Vocabulary BinaryOperator where
  members := [add, sub, mul, div, rem, bitAnd, bitOr, bitXor, shiftLeft, shiftRight]
  complete op := by cases op <;> decide
  name
    | add => "Add"
    | sub => "Sub"
    | mul => "Mul"
    | div => "Div"
    | rem => "Rem"
    | bitAnd => "BitAnd"
    | bitOr => "BitOr"
    | bitXor => "BitXor"
    | shiftLeft => "ShiftLeft"
    | shiftRight => "ShiftRight"
  distinct := by decide

def text : BinaryOperator → String
  | add => "add"
  | sub => "sub"
  | mul => "mul"
  | div => "div"
  | rem => "rem"
  | bitAnd => "bit.and"
  | bitOr => "bit.or"
  | bitXor => "bit.xor"
  | shiftLeft => "shl"
  | shiftRight => "shr"

end BinaryOperator

/-! ## signs -/

inductive Sign where
  /-- signed, or it makes no difference -/
  | none
  | unsigned
  deriving DecidableEq

namespace Sign

instance : Inhabited Sign := ⟨none⟩

instance : Vocabulary Sign where
  members := [none, unsigned]
  complete s := by cases s <;> decide
  name
    | none => "None"
    | unsigned => "Unsigned"
  distinct := by decide

end Sign

/-! ## conversions -/

inductive Conversion where
  | invalid | nop | truncate | signExtend | zeroExtend | intToFloat | floatToInt
  | floatPrecisionChange | startGcTracking | stopGcTracking | objectInterior
  deriving DecidableEq

namespace Conversion

instance : Vocabulary Conversion where
  members := [invalid, nop, truncate, signExtend, zeroExtend, intToFloat, floatToInt,
    floatPrecisionChange, startGcTracking, stopGcTracking, objectInterior]
  complete k := by cases k <;> decide
  name
    | invalid => "Invalid"
    | nop => "Nop"
    | truncate => "Truncate"
    | signExtend => "SignExtend"
    | zeroExtend => "ZeroExtend"
    | intToFloat => "IntToFloat"
    | floatToInt => "FloatToInt"
    | floatPrecisionChange => "FloatPrecisionChange"
    | startGcTracking => "StartGcTracking"
    | stopGcTracking => "StopGcTracking"
    | objectInterior => "ObjectInterior"
  distinct := by decide

def text : Conversion → String
  | invalid => "invalid"
  | nop => "nop"
  | truncate => "truncate"
  | signExtend => "sign_extend"
  | zeroExtend => "zero_extend"
  | intToFloat => "int_to_float"
  | floatToInt => "float_to_int"
  | floatPrecisionChange => "float_precision_change"
  | startGcTracking => "start_gc_tracking"
  | stopGcTracking => "stop_gc_tracking"
  | objectInterior => "object_interior"

end Conversion

end ILTree
