import ILTree.Inst.Basic

/-!
# Field access

Fields have no instructions of their own.  A field is read or written through its address:

* `obj.f`       is `ldobj(ldflda f(obj))`       (`fieldLoad?`);
* `obj.f = v`   is `stobj(ldflda f(obj), v)`    (`fieldStore?`);
* `C.s`         is `ldobj(ldsflda s)`           (`staticFieldLoad?`);
* `C.s = v`     is `stobj(ldsflda s, v)`        (`staticFieldStore?`).

An access through any other address (`isFieldAddress` fails) is none of these.
-/

namespace ILTree.Inst

/-! ## addresses -/

/-- the object and its field -/
def fieldAddress? : Inst → Option (Inst × FieldRef)
  | loadFieldAddr x f => some (x, f)
  | _ => none

def staticFieldAddress? : Inst → Option FieldRef
  | loadStaticFieldAddr f => some f
  | _ => none

def isFieldAddress : Inst → Bool
  | loadFieldAddr _ _ | loadStaticFieldAddr _ => true
  | _ => false

/-! ## accesses through an address -/

/-- the address read through -/
def indirectLoad? : Inst → Option Inst
  | loadIndirect a _ => some a
  | _ => none

/-- the address written through, and the value -/
def indirectStore? : Inst → Option (Inst × Inst)
  | storeIndirect a x _ => some (a, x)
  | _ => none

/-! ## fields -/

/-- the object and its field -/
def fieldLoad? (i : Inst) : Option (Inst × FieldRef) := do
  let a ← i.indirectLoad?
  a.fieldAddress?

def staticFieldLoad? (i : Inst) : Option FieldRef := do
  let a ← i.indirectLoad?
  a.staticFieldAddress?

def isStaticFieldLoad (f : FieldRef) (i : Inst) : Bool := i.staticFieldLoad? == some f

/-- the object, its field and the value -/
def fieldStore? (i : Inst) : Option (Inst × FieldRef × Inst) := do
  let (a, x) ← i.indirectStore?
  let (target, f) ← a.fieldAddress?
  return (target, f, x)

/-- the field and the value -/
def staticFieldStore? (i : Inst) : Option (FieldRef × Inst) := do
  let (a, x) ← i.indirectStore?
  let f ← a.staticFieldAddress?
  return (f, x)

end ILTree.Inst
