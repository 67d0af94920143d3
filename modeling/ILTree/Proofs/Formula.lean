import ILTree.Inst.Children
import ILTree.Proofs.Shape.Inverse

/-!
# Formulas read off a condition

The boolean shapes overlap: a conditional with two constant arms is both `a && b` and `a || b`, a
negated comparison is both a negation and the opposite comparison.  So one tree has many readings,
and each may stop at any node.

* `Formula`         what is read off: operators, comparisons, and instructions left as they are;
* `Reads i p`       `p` is one of the readings of `i`;
* `Meaning val`     the integers `val i` respect what the instructions mean;
* `Formula.value`   the value of a formula, the operators as short-circuit operators;
* `Inst.eval`       a meaning for every choice of the values of variables (`meaning_eval`);
* `value_of_reads`  every reading of an instruction has its value.
-/

namespace ILTree

inductive Formula where
  | leaf (i : Inst)
  | and (left right : Formula)
  | or (left right : Formula)
  | not (argument : Formula)
  | equals (left right : Inst)
  | notEquals (left right : Inst)

/-- At each node a reading stops, or follows one of the shapes that are there. -/
inductive Reads : Inst → Formula → Prop where
  | stop (i : Inst) : Reads i (.leaf i)
  | and {i l r : Inst} {p q : Formula} (shape : i.and? = some (l, r)) (left : Reads l p)
      (right : Reads r q) : Reads i (.and p q)
  | or {i l r : Inst} {p q : Formula} (shape : i.or? = some (l, r)) (left : Reads l p)
      (right : Reads r q) : Reads i (.or p q)
  | not {i x : Inst} {p : Formula} (shape : i.not? = some x) (argument : Reads x p) :
      Reads i (.not p)
  | equals {i l r : Inst} (shape : i.equals? = some (l, r)) : Reads i (.equals l r)
  | notEquals {i l r : Inst} (shape : i.notEquals? = some (l, r)) : Reads i (.notEquals l r)

/-! ## values -/

/-- Nothing is asked of the instructions that are not named here. -/
structure Meaning (val : Inst → Int) : Prop where
  ifElse : ∀ c t f, val (.ifElse c t f) = if val c ≠ 0 then val t else val f
  constI4 : ∀ n, val (.constI4 n) = n.toInt
  logicNot : ∀ x, val (.logicNot x) = if val x = 0 then 1 else 0
  equality_bit : ∀ s l r, val (.compare .equality s l r) = 0 ∨ val (.compare .equality s l r) = 1
  inequality_opposite : ∀ s l r,
    val (.compare .inequality s l r) = 1 - val (.compare .equality s l r)
  signless : ∀ k, k.isEqualityLike = true → ∀ s l r,
    val (.compare k s l r) = val (.comparison k l r)

/-- the value of a formula when the instructions in it have the values `val` -/
def Formula.value (val : Inst → Int) : Formula → Int
  | leaf i => val i
  | and p q => if p.value val ≠ 0 then q.value val else 0
  | or p q => if p.value val ≠ 0 then 1 else q.value val
  | not p => if p.value val = 0 then 1 else 0
  | equals l r => val (.comparison .equality l r)
  | notEquals l r => val (.comparison .inequality l r)

/-- the meaning of the named instructions, for any values of the variables; the value of all
other instructions is zero -/
def Inst.eval (env : Variable → Int) : Inst → Int :=
  fold fun i values =>
    match i, values with
    | constI4 n, _ => n.toInt
    | loadLocal v, _ => env v
    | ifElse _ _ _, [c, t, f] => if c ≠ 0 then t else f
    | logicNot _, [x] => if x = 0 then 1 else 0
    | compare .equality _ _ _, [l, r] => if l = r then 1 else 0
    | compare .inequality _ _ _, [l, r] => if l = r then 0 else 1
    | _, _ => 0

theorem meaning_eval (env : Variable → Int) : Meaning (Inst.eval env) where
  ifElse _ _ _ := rfl
  constI4 _ := rfl
  logicNot _ := rfl
  equality_bit s l r := by
    show (if l.eval env = r.eval env then (1 : Int) else 0) = 0 ∨
      (if l.eval env = r.eval env then (1 : Int) else 0) = 1
    split <;> simp
  inequality_opposite s l r := by
    show (if l.eval env = r.eval env then (0 : Int) else 1) =
      1 - (if l.eval env = r.eval env then (1 : Int) else 0)
    split <;> rfl
  signless k _ s l r := by cases k <;> rfl

namespace Meaning
variable {val : Inst → Int} (m : Meaning val)
include m

theorem shortAnd (l r : Inst) : val (.shortAnd l r) = if val l ≠ 0 then val r else 0 := by
  rw [Inst.shortAnd, m.ifElse, m.constI4]
  rfl

theorem shortOr (l r : Inst) : val (.shortOr l r) = if val l ≠ 0 then 1 else val r := by
  rw [Inst.shortOr, m.ifElse, m.constI4]
  rfl

theorem not_inequality (s : Sign) (l r : Inst) :
    val (.logicNot (.compare .inequality s l r)) = val (.comparison .equality l r) := by
  have hbit := m.equality_bit s l r
  rw [m.logicNot, m.inequality_opposite, ← m.signless .equality rfl s]
  split <;> omega

theorem not_equality (s : Sign) (l r : Inst) :
    val (.logicNot (.compare .equality s l r)) = val (.comparison .inequality l r) := by
  have hbit := m.equality_bit s l r
  rw [m.logicNot, ← m.signless .inequality rfl s, m.inequality_opposite]
  split <;> omega

end Meaning

/-! ## readings keep the value -/

/-- **Every reading of an instruction has the value of the instruction.**  By induction on the
reading: each shape is replaced by the instruction it stands for, whose value is the meaning of
the operator on the values of the operands. -/
theorem value_of_reads {val : Inst → Int} (m : Meaning val) {i : Inst} {p : Formula}
    (h : Reads i p) : p.value val = val i := by
  induction h with
  | stop i => rfl
  | and shape _ _ ihl ihr =>
    rw [Inst.and?_eq_some.mp shape, m.shortAnd, Formula.value, ihl, ihr]
  | or shape _ _ ihl ihr =>
    rw [Inst.or?_eq_some.mp shape, m.shortOr, Formula.value, ihl, ihr]
  | not shape _ ih =>
    rw [Inst.not?_eq_some.mp shape, m.logicNot, Formula.value, ih]
  | equals shape =>
    obtain ⟨s, rfl | rfl⟩ := Inst.equals?_eq_some.mp shape
    · exact (m.signless .equality rfl s _ _).symm
    · exact (m.not_inequality s _ _).symm
  | notEquals shape =>
    obtain ⟨s, rfl | rfl⟩ := Inst.notEquals?_eq_some.mp shape
    · exact (m.signless .inequality rfl s _ _).symm
    · exact (m.not_equality s _ _).symm

/-- `!(x != 5) && (x == 5 || 1)`, where the second operand is one of the conditionals that are
both `&&` and `||` -/
theorem value_of_reads_overlapping :
    let x : Inst := .loadLocal ⟨⟨0⟩, .localSlot, 0, .i32, none⟩
    let l : Inst := .logicNot (.compare .inequality .unsigned x (.constI4 5))
    let r : Inst := .ifElse (.compare .equality .unsigned x (.constI4 5)) (.constI4 1) (.constI4 0)
    let p : Formula :=
      .and (.equals x (.constI4 5)) (.or (.equals x (.constI4 5)) (.leaf (.constI4 0)))
    let val := Inst.eval fun _ => 5
    Meaning val ∧ Reads (.shortAnd l r) p ∧ p.value val = val (.shortAnd l r) := by
  intro x l r p val
  have h : Reads (.shortAnd l r) p :=
    .and rfl (.equals rfl) (.or rfl (.equals rfl) (.stop _))
  exact ⟨meaning_eval _, h, value_of_reads (meaning_eval _) h⟩

end ILTree
