import ILTree.Inst.Basic
import ILTree.Double.Layout

/-!
# Instructions spelled out

Every part of an instruction by its label, absent operands included.

* `Inst.dump`      an instruction spelled out;
* `Inst.dumpAll`   a list of instructions, one by one.
-/

namespace ILTree.Inst

open Structured

mutual

def dump : Inst → String
  | nop => "Nop"
  | constI4 n => record "ConstI4" [("value", Int.repr n.toInt)]
  | constI8 n => record "ConstI8" [("value", Int.repr n.toInt)]
  | constF8 x => record "ConstF8" [("value", x.dump)]
  | constNull => "ConstNull"
  | constString s => record "ConstString" [("value", Quoted.text s)]
  | loadLocal v => record "LoadLocal" [("variable", v.dump)]
  | loadLocalAddr v => record "LoadLocalAddr" [("variable", v.dump)]
  | storeLocal v x => record "StoreLocal" [("variable", v.dump), ("value", x.dump)]
  | arrayLength t x =>
    record "ArrayLength" [("result_type", Vocabulary.name t), ("array", x.dump)]
  | leave c x => record "Leave" [("target", c.dump), ("value", x.dump)]
  | branch b => record "Branch" [("target", b.dump)]
  | ifElse c x y =>
    record "If" [("condition", c.dump), ("true_inst", x.dump), ("false_inst", y.dump)]
  | logicNot x => record "LogicNot" [("argument", x.dump)]
  | compare k s l r =>
    record "Compare" [("kind", Vocabulary.name k), ("sign", Vocabulary.name s),
      ("left", l.dump), ("right", r.dump)]
  | catchHandler v f b =>
    record "CatchHandler" [("variable", v.dump), ("filter", f.dump), ("body", b.dump)]
  | loadIndirect x t => record "LoadIndirect" [("target", x.dump), ("ty", t.dump)]
  | storeIndirect a x t =>
    record "StoreIndirect" [("target", a.dump), ("value", x.dump), ("ty", t.dump)]
  | loadFieldAddr x f => record "LoadFieldAddr" [("target", x.dump), ("field", f.dump)]
  | loadStaticFieldAddr f => record "LoadStaticFieldAddr" [("field", f.dump)]
  | loadElementAddr a is t =>
    record "LoadElementAddr" [("array", a.dump), ("indices", list (dumpAll is)),
      ("element_type", t.dump)]
  | binaryNumeric op l r ovf s =>
    record "BinaryNumeric" [("operator", Vocabulary.name op), ("left", l.dump),
      ("right", r.dump), ("check_overflow", bool ovf), ("sign", Vocabulary.name s)]
  | conv x k t ovf =>
    record "Conv" [("argument", x.dump), ("kind", Vocabulary.name k),
      ("target_type", Vocabulary.name t), ("check_overflow", bool ovf)]
  | call m args => record "Call" [("method", m.dump), ("args", list (dumpAll args))]
  | throw x => record "Throw" [("argument", x.dump)]

def dumpAll : List Inst → List String
  | [] => []
  | i :: is => i.dump :: dumpAll is

end

end ILTree.Inst
