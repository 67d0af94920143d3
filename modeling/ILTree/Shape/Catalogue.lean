import ILTree.Inst.Text
import ILTree.Shape.Exit
import ILTree.Shape.Boolean
import ILTree.Shape.FieldAccess
import ILTree.Shape.Peel

/-!
# All shapes

* `Matcher`       one test or match, with its arguments;
* `Capture`       one part that a match gives;
* `Matcher.run`   the parts in order (none for a test), or `none` if the shape is not there.
-/

namespace ILTree

inductive Matcher where
  | isNop
  | isNull
  | isI4 (value : Int32)
  | isLoadOf (v : Variable)
  | isAddressOf (v : Variable)
  | isReferenceTo (v : Variable)
  | isLoadOfThis
  | isBranchTo (b : Block)
  | isVoidLeaveTo (c : Container)
  | isStaticFieldLoad (f : FieldRef)
  | isFieldAddress
  | isBinary (op : BinaryOperator)
  | leavesFunction
  | i4
  | i8
  | int
  | string
  | loaded
  | addressed
  | referenced
  | stored
  | storedTo (v : Variable)
  | handled
  | arrayLength (t : StackType)
  | returned
  | branch
  | leave
  | leaveTo (c : Container)
  | voidLeave
  | ifElse
  | ifThen
  | and
  | or
  | not
  | comparison (k : Comparison)
  | equals
  | notEquals
  | fieldAddress
  | staticFieldAddress
  | staticFieldLoad
  | fieldLoad
  | staticFieldStore
  | fieldStore
  | binaryOf (op : BinaryOperator)
  | binary
  | peel (k : Conversion)
  deriving DecidableEq

inductive Capture where
  | inst (i : Inst)
  | var (v : Variable)
  | field (f : FieldRef)
  | block (b : Block)
  | container (c : Container)
  | operator (op : BinaryOperator)
  | int (n : Int)
  | string (s : String)

namespace Capture

/-- the instruction, if it is one -/
def inst? : Capture → Option Inst
  | inst i => some i
  | _ => none

/-- a variable with its id, a container with its kind -/
def text : Capture → String
  | inst i => i.text
  | var v => v.id.text ++ " " ++ v.text
  | field f => f.text
  | block b => b.text
  | container c => c.text ++ " " ++ Vocabulary.name c.kind
  | operator op => op.text
  | int n => Int.repr n
  | string s => s

end Capture

namespace Matcher

/-- a test captures nothing -/
def test (b : Bool) : Option (List Capture) := if b then some [] else none

def insts (p : Inst × Inst) : List Capture := [.inst p.1, .inst p.2]

def run (i : Inst) : Matcher → Option (List Capture)
  | isNop => test i.isNop
  | isNull => test i.isNull
  | isI4 n => test (i.isI4 n)
  | isLoadOf v => test (i.isLoadOf v)
  | isAddressOf v => test (i.isAddressOf v)
  | isReferenceTo v => test (i.isReferenceTo v)
  | isLoadOfThis => test i.isLoadOfThis
  | isBranchTo b => test (i.isBranchTo b)
  | isVoidLeaveTo c => test (i.isVoidLeaveTo c)
  | isStaticFieldLoad f => test (i.isStaticFieldLoad f)
  | isFieldAddress => test i.isFieldAddress
  | isBinary op => test (i.isBinary op)
  | leavesFunction => test i.leavesFunction
  | i4 => i.i4?.map fun n => [.int n.toInt]
  | i8 => i.i8?.map fun n => [.int n.toInt]
  | int => i.int?.map fun n => [.int n.toInt]
  | string => i.string?.map fun s => [.string s]
  | loaded => i.loaded?.map fun v => [.var v]
  | addressed => i.addressed?.map fun v => [.var v]
  | referenced => i.referenced?.map fun v => [.var v]
  | stored => i.stored?.map fun v => [.var v]
  | storedTo v => (i.storedTo? v).map fun x => [.inst x]
  | handled => i.handled?.map fun v => [.var v]
  | arrayLength t => (i.arrayLength? t).map fun a => [.inst a]
  | returned => i.returned?.map fun x => [.inst x]
  | branch => i.branch?.map fun b => [.block b]
  | leave => i.leave?.map fun (c, x) => [.container c, .inst x]
  | leaveTo c => (i.leaveTo? c).map fun x => [.inst x]
  | voidLeave => i.voidLeave?.map fun c => [.container c]
  | ifElse => i.ifElse?.map fun (c, t, f) => [.inst c, .inst t, .inst f]
  | ifThen => i.ifThen?.map insts
  | and => i.and?.map insts
  | or => i.or?.map insts
  | not => i.not?.map fun x => [.inst x]
  | comparison k => (i.comparison? k).map insts
  | equals => i.equals?.map insts
  | notEquals => i.notEquals?.map insts
  | fieldAddress => i.fieldAddress?.map fun (x, f) => [.inst x, .field f]
  | staticFieldAddress => i.staticFieldAddress?.map fun f => [.field f]
  | staticFieldLoad => i.staticFieldLoad?.map fun f => [.field f]
  | fieldLoad => i.fieldLoad?.map fun (x, f) => [.inst x, .field f]
  | staticFieldStore => i.staticFieldStore?.map fun (f, x) => [.field f, .inst x]
  | fieldStore => i.fieldStore?.map fun (x, f, y) => [.inst x, .field f, .inst y]
  | binaryOf op => (i.binaryOf? op).map insts
  | binary => i.binary?.map fun (op, l, r) => [.operator op, .inst l, .inst r]
  | peel k => some [.inst (i.peel k)]

end Matcher

end ILTree
