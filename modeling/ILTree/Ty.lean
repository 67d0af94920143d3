import ILTree.Reference
import ILTree.Operator

/-!
# Types

As much of the type system as is needed to say how a variable is reached: a variable that holds
a reference is loaded, any other one is accessed through its address.

* `Ty.isReference`   `some true` for object references, `some false` for values and pointers,
                     `none` where it cannot be said (generic parameters, unknown, void);
* `Ty.stackType`     what a value of the type is on the evaluation stack;
* `Ty.text`          the type as in a program: `int[,]`, `!0`, `char*`;
* `Ty.dump`          the type constructor by constructor.
-/

namespace ILTree

inductive Ty where
  | void | bool
  | i8 | u8 | i16 | u16 | i32 | u32 | i64 | u64
  | nativeInt | nativeUInt
  | f32 | f64
  | char
  | object | string
  | classType (ref : TypeRef)
  | valueType (ref : TypeRef)
  | array (element : Ty) (rank : UInt32)
  | pointer (target : Ty)
  | byRef (target : Ty)
  | genericParam (index : UInt32)
  | methodGenericParam (index : UInt32)
  | unknown
  deriving DecidableEq

namespace Ty

instance : Inhabited Ty := ⟨unknown⟩

/-! ## classification -/

/-- whether a value of the type is an object reference -/
def isReference : Ty → Option Bool
  | object | string | classType _ | array _ _ => some true
  | genericParam _ | methodGenericParam _ | unknown | void => none
  | valueType _ | pointer _ | byRef _ | bool | i8 | u8 | i16 | u16 | i32 | u32 | i64 | u64
  | nativeInt | nativeUInt | f32 | f64 | char => some false

def stackType : Ty → StackType
  | bool | i8 | u8 | i16 | u16 | i32 | u32 | char => .i4
  | i64 | u64 => .i8
  | nativeInt | nativeUInt | pointer _ => .i
  | f32 => .f4
  | f64 => .f8
  | object | string | classType _ | array _ _ => .o
  | byRef _ => .ref
  | void => .void
  | valueType _ | genericParam _ | methodGenericParam _ | unknown => .unknown

/-! ## texts -/

/-- the brackets of an array: one comma less than dimensions, none for no dimension -/
def brackets (rank : UInt32) : String :=
  "[" ++ String.ofList (List.replicate (rank.toNat - 1) ',') ++ "]"

def text : Ty → String
  | void => "void"
  | bool => "bool"
  | i8 => "sbyte"
  | u8 => "byte"
  | i16 => "short"
  | u16 => "ushort"
  | i32 => "int"
  | u32 => "uint"
  | i64 => "long"
  | u64 => "ulong"
  | nativeInt => "nint"
  | nativeUInt => "nuint"
  | f32 => "float"
  | f64 => "double"
  | char => "char"
  | object => "object"
  | string => "string"
  | classType r => r.text
  | valueType r => r.text
  | array t rank => t.text ++ brackets rank
  | pointer t => t.text ++ "*"
  | byRef t => t.text ++ "&"
  | genericParam n => "!" ++ Nat.repr n.toNat
  | methodGenericParam n => "!!" ++ Nat.repr n.toNat
  | unknown => "?"

def dump : Ty → String
  | void => "Void"
  | bool => "Bool"
  | i8 => "I8"
  | u8 => "U8"
  | i16 => "I16"
  | u16 => "U16"
  | i32 => "I32"
  | u32 => "U32"
  | i64 => "I64"
  | u64 => "U64"
  | nativeInt => "NativeInt"
  | nativeUInt => "NativeUInt"
  | f32 => "F32"
  | f64 => "F64"
  | char => "Char"
  | object => "Object"
  | string => "String"
  | classType r => Structured.tuple "Class" [r.dump]
  | valueType r => Structured.tuple "ValueType" [r.dump]
  | array t rank => Structured.tuple "Array" [t.dump, Nat.repr rank.toNat]
  | pointer t => Structured.tuple "Pointer" [t.dump]
  | byRef t => Structured.tuple "ByRef" [t.dump]
  | genericParam n => Structured.tuple "GenericParam" [Nat.repr n.toNat]
  | methodGenericParam n => Structured.tuple "MethodGenericParam" [Nat.repr n.toNat]
  | unknown => "Unknown"

/-! ## names -/

/-- the types that their name alone determines -/
def plain : List Ty :=
  [void, bool, i8, u8, i16, u16, i32, u32, i64, u64, nativeInt, nativeUInt, f32, f64, char,
    object, string, unknown]

def ofName? (s : String) : Option Ty := plain.find? fun t => t.dump == s

end Ty

end ILTree
