import ILTree.Inst.Children
import ILTree.Proofs.Shape.Inverse

/-!
# Equality under towers of negations

An equality is written as a comparison or as one negation of the opposite comparison.  So under a
tower of negations only two heights matter: at height 0 the comparison counts as it is, at height 1
the opposite one does, and from height 2 on there is no equality to be seen.

* `Inst.tower n x`               `x` under `n` negations;
* `exists_tower`                 every instruction is a tower over one that is no negation;
* `comparisonOrNegated?_tower`   what is seen of a tower, for comparisons of any kind;
* `kind_unique`                  it is seen for one kind at most;
* `equality_of_tower`            equalities and inequalities at all heights.
-/

namespace ILTree

theorem Comparison.negate_inj {j k : Comparison} (h : j.negate = k.negate) : j = k := by
  rw [← negate_negate j, h, negate_negate]

namespace Inst

/-! ## towers -/

def IsNegation (i : Inst) : Prop := ∃ x, i = logicNot x

/-- `x` under `n` negations -/
def tower : Nat → Inst → Inst
  | 0, x => x
  | n + 1, x => logicNot (tower n x)

/-- By induction on the tree: below a negation there is a tower, which gets higher by one. -/
theorem exists_tower (i : Inst) : ∃ n x, ¬ IsNegation x ∧ i = tower n x := by
  induction i using induct with
  | step i ih =>
    by_cases h : IsNegation i
    · obtain ⟨y, rfl⟩ := h
      obtain ⟨n, x, hx, hy⟩ := ih y List.mem_cons_self
      exact ⟨n + 1, x, hx, congrArg logicNot hy⟩
    · exact ⟨0, i, h, rfl⟩

/-! ## what is seen of a tower -/

section
variable {i x l r : Inst} {j k : Comparison}

/-- The last negation is the only one looked through. -/
theorem comparisonOrNegated?_logicNot :
    (logicNot x).comparisonOrNegated? k = x.comparison? k.negate := rfl

theorem comparisonOrNegated?_of_not_isNegation (h : ¬ IsNegation x) :
    x.comparisonOrNegated? k = x.comparison? k := by
  cases x with
  | logicNot y => exact absurd ⟨y, rfl⟩ h
  | _ => rfl

theorem comparisonOrNegated?_negation (h : IsNegation i) :
    (logicNot i).comparisonOrNegated? k = none := by
  obtain ⟨x, rfl⟩ := h
  rfl

/-- Without a negation already there, one more turns the question into the opposite one. -/
theorem comparisonOrNegated?_dual (h : ¬ IsNegation i) :
    (logicNot i).comparisonOrNegated? k = i.comparisonOrNegated? k.negate := by
  rw [comparisonOrNegated?_logicNot, comparisonOrNegated?_of_not_isNegation h]

theorem comparisonOrNegated?_tower_of_two_le {n : Nat} (h : 2 ≤ n) (x : Inst) :
    (tower n x).comparisonOrNegated? k = none := by
  obtain ⟨m, rfl⟩ : ∃ m, n = m + 2 := ⟨n - 2, by omega⟩
  exact comparisonOrNegated?_negation ⟨tower m x, rfl⟩

theorem comparisonOrNegated?_tower (h : ¬ IsNegation x) (n : Nat) :
    (tower n x).comparisonOrNegated? k = some (l, r) ↔
      (n = 0 ∧ ∃ s, x = compare k s l r) ∨ (n = 1 ∧ ∃ s, x = compare k.negate s l r) := by
  match n with
  | 0 =>
    show x.comparisonOrNegated? k = some (l, r) ↔ _
    rw [comparisonOrNegated?_of_not_isNegation h, comparison?_eq_some]
    simp
  | 1 =>
    show (logicNot x).comparisonOrNegated? k = some (l, r) ↔ _
    rw [comparisonOrNegated?_logicNot, comparison?_eq_some]
    simp
  | n + 2 =>
    rw [comparisonOrNegated?_tower_of_two_le (by omega)]
    simp

/-- The kind is that of the comparison at height 0, and the opposite one at height 1. -/
theorem kind_unique {p q : Inst × Inst} (hk : i.comparisonOrNegated? k = some p)
    (hj : i.comparisonOrNegated? j = some q) : k = j := by
  obtain ⟨s, rfl | rfl⟩ := comparisonOrNegated?_eq_some.mp hk
  · obtain ⟨t, e | e⟩ := comparisonOrNegated?_eq_some.mp hj
    · exact (Inst.compare.inj e).1
    · cases e
  · obtain ⟨t, e | e⟩ := comparisonOrNegated?_eq_some.mp hj
    · cases e
    · have hkind : k.negate = j.negate := (Inst.compare.inj (Inst.logicNot.inj e)).1
      exact Comparison.negate_inj hkind

theorem equals?_or_notEquals?_none : i.equals? = none ∨ i.notEquals? = none := by
  cases hequals : i.equals? with
  | none => exact .inl rfl
  | some p =>
    cases hnotEquals : i.notEquals? with
    | none => exact .inr rfl
    | some q =>
      have hkind : Comparison.equality = .inequality := kind_unique hequals hnotEquals
      cases hkind

end

/-- **Equality at all heights.**  A tower of negations over an instruction that is none, and every
instruction is such a tower, is an equality exactly if it is a comparison `==` under no negation or
a comparison `!=` under one, of either sign and with these operands in this order; it is an
inequality exactly if it is one of these with `==` and `!=` exchanged.  From two negations on it is
neither.  So nothing is both an equality and an inequality.  Negating an instruction that is no
negation makes equalities out of its inequalities and the other way round, and negating a negation
leaves none of either. -/
theorem equality_of_tower :
    (∀ x : Inst, ¬ IsNegation x → ∀ (n : Nat) (l r : Inst),
      ((tower n x).equals? = some (l, r) ↔
        (n = 0 ∧ ∃ s, x = compare .equality s l r) ∨
        (n = 1 ∧ ∃ s, x = compare .inequality s l r)) ∧
      ((tower n x).notEquals? = some (l, r) ↔
        (n = 0 ∧ ∃ s, x = compare .inequality s l r) ∨
        (n = 1 ∧ ∃ s, x = compare .equality s l r))) ∧
    (∀ i : Inst, ∃ n x, ¬ IsNegation x ∧ i = tower n x) ∧
    (∀ (n : Nat) (x : Inst), 2 ≤ n → (tower n x).equals? = none ∧ (tower n x).notEquals? = none) ∧
    (∀ i : Inst, i.equals? = none ∨ i.notEquals? = none) ∧
    (∀ i : Inst, ¬ IsNegation i →
      (logicNot i).equals? = i.notEquals? ∧ (logicNot i).notEquals? = i.equals?) ∧
    (∀ i : Inst, IsNegation i → (logicNot i).equals? = none ∧ (logicNot i).notEquals? = none) :=
  ⟨fun _ h n _ _ => ⟨comparisonOrNegated?_tower h n, comparisonOrNegated?_tower h n⟩,
    exists_tower,
    fun _ x h =>
      ⟨comparisonOrNegated?_tower_of_two_le h x, comparisonOrNegated?_tower_of_two_le h x⟩,
    fun _ => equals?_or_notEquals?_none,
    fun _ h => ⟨comparisonOrNegated?_dual h, comparisonOrNegated?_dual h⟩,
    fun _ h => ⟨comparisonOrNegated?_negation h, comparisonOrNegated?_negation h⟩⟩

/-- an unsigned `!=` under up to three negations -/
theorem equality_of_tower_unsigned :
    let l : Inst := .constI4 1
    let r : Inst := .constNull
    let x : Inst := .compare .inequality .unsigned l r
    x.notEquals? = some (l, r) ∧ (tower 1 x).equals? = some (l, r) ∧
    (tower 1 x).notEquals? = none ∧ (tower 2 x).notEquals? = none ∧ (tower 3 x).equals? = none ∧
    (logicNot x).equals? = x.notEquals? := by
  intro l r x
  have hx : ¬ IsNegation x := fun ⟨y, e⟩ => Inst.noConfusion e
  have hnegation : IsNegation (tower 1 x) := ⟨x, rfl⟩
  obtain ⟨htower, -, hhigh, hone, hdual, hnone⟩ := equality_of_tower
  have hequals : (tower 1 x).equals? = some (l, r) := (htower x hx 1 l r).1.mpr (.inr ⟨rfl, _, rfl⟩)
  refine ⟨(htower x hx 0 l r).2.mpr (.inl ⟨rfl, _, rfl⟩), hequals, ?_, (hnone _ hnegation).2,
    (hhigh 3 x (by omega)).1, (hdual x hx).1⟩
  rcases hone (tower 1 x) with h | h
  · rw [hequals] at h
    cases h
  · exact h

end Inst

end ILTree
