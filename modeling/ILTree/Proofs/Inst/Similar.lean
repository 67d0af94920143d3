import ILTree.Proofs.Inst.Occurrence

/-!
# Instructions that look alike

A matcher sees the shape and the payload of an instruction and passes its operands on.  Two
instructions look alike if all this is the same, with one relation between the variables they carry
and another between their operands.  Both relations are left open: what is said of a shape once
holds of trees that are the same, of trees under other names, and of trees that agree near the root.

* `Similar V R a b`   one shape and one payload, variables related by `V`, operands by `R`;
* `Similar.symm`, `Similar.imp`   the same the other way round, and under other relations;
* `similar_of_head`   instructions with one head look alike, with equal variables.
-/

namespace ILTree.Inst

/-- One shape, and related in every place of it that matchers look at: neither doubles nor lists of
operands are among them. -/
inductive Similar (V : Variable → Variable → Prop) (R : Inst → Inst → Prop) :
    Inst → Inst → Prop where
  | nop : Similar V R nop nop
  | constI4 (n : Int32) : Similar V R (constI4 n) (constI4 n)
  | constI8 (n : Int64) : Similar V R (constI8 n) (constI8 n)
  | constF8 (x y : Double) : Similar V R (constF8 x) (constF8 y)
  | constNull : Similar V R constNull constNull
  | constString (s : String) : Similar V R (constString s) (constString s)
  | loadLocal {v w : Variable} (hv : V v w) : Similar V R (loadLocal v) (loadLocal w)
  | loadLocalAddr {v w : Variable} (hv : V v w) :
      Similar V R (loadLocalAddr v) (loadLocalAddr w)
  | storeLocal {v w : Variable} {x y : Inst} (hv : V v w) (hx : R x y) :
      Similar V R (storeLocal v x) (storeLocal w y)
  | arrayLength (t : StackType) {x y : Inst} (hx : R x y) :
      Similar V R (arrayLength t x) (arrayLength t y)
  | leave (c : Container) {x y : Inst} (hx : R x y) : Similar V R (leave c x) (leave c y)
  | branch (b : Block) : Similar V R (branch b) (branch b)
  | ifElse {c c' x x' y y' : Inst} (hc : R c c') (hx : R x x') (hy : R y y') :
      Similar V R (ifElse c x y) (ifElse c' x' y')
  | logicNot {x y : Inst} (hx : R x y) : Similar V R (logicNot x) (logicNot y)
  | compare (k : Comparison) (s : Sign) {l l' r r' : Inst} (hl : R l l') (hr : R r r') :
      Similar V R (compare k s l r) (compare k s l' r')
  | catchHandler {v w : Variable} {f f' b b' : Inst} (hv : V v w) (hf : R f f') (hb : R b b') :
      Similar V R (catchHandler v f b) (catchHandler w f' b')
  | loadIndirect (t : Ty) {x y : Inst} (hx : R x y) :
      Similar V R (loadIndirect x t) (loadIndirect y t)
  | storeIndirect (t : Ty) {a a' x x' : Inst} (ha : R a a') (hx : R x x') :
      Similar V R (storeIndirect a x t) (storeIndirect a' x' t)
  | loadFieldAddr (f : FieldRef) {x y : Inst} (hx : R x y) :
      Similar V R (loadFieldAddr x f) (loadFieldAddr y f)
  | loadStaticFieldAddr (f : FieldRef) :
      Similar V R (loadStaticFieldAddr f) (loadStaticFieldAddr f)
  | loadElementAddr (t : Ty) (a b : Inst) (is js : List Inst) :
      Similar V R (loadElementAddr a is t) (loadElementAddr b js t)
  | binaryNumeric (op : BinaryOperator) (ovf : Bool) (s : Sign) {l l' r r' : Inst}
      (hl : R l l') (hr : R r r') :
      Similar V R (binaryNumeric op l r ovf s) (binaryNumeric op l' r' ovf s)
  | conv (k : Conversion) (t : StackType) (ovf : Bool) {x y : Inst} (hx : R x y) :
      Similar V R (conv x k t ovf) (conv y k t ovf)
  | call (m : MethodRef) (is js : List Inst) : Similar V R (call m is) (call m js)
  | throw {x y : Inst} (hx : R x y) : Similar V R (throw x) (throw y)

section
variable {V : Variable → Variable → Prop} {R : Inst → Inst → Prop} {a b : Inst}

theorem Similar.symm (h : Similar V R a b) : Similar (flip V) (flip R) b a := by
  cases h <;> constructor <;> assumption

/-- What is asked of the variables and of the operands may be put in other words. -/
theorem Similar.imp {V' : Variable → Variable → Prop} {R' : Inst → Inst → Prop}
    (h : Similar V R a b)
    (hV : ∀ v w, a.head.var? = some v → b.head.var? = some w → V v w → V' v w)
    (hR : ∀ x ∈ a.children, ∀ y ∈ b.children, R x y → R' x y) : Similar V' R' a b := by
  cases h <;> constructor <;>
    first
    | exact hV _ _ rfl rfl ‹_›
    | exact hR _ (by simp [children]) _ (by simp [children]) ‹_›

/-- With one head, the operands are all that is left to relate. -/
theorem similar_of_head (h : a.head = b.head)
    (hc : ∀ x y, (x, y) ∈ a.children.zip b.children → R x y) : Similar Eq R a b := by
  cases a <;> cases b <;> cases h <;> constructor <;>
    first
    | rfl
    | exact hc _ _ (by simp [children])

end

end ILTree.Inst
