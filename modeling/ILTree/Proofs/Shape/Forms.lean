import ILTree.Proofs.Shape.Inverse

/-!
# The forms of a shape agree

Many shapes come in several forms: a test, a pattern that asks for certain parts, a pattern that
gives all parts.  Each form is written out on its own; here they say the same.

* `FormsAgree i`   what the forms say of `i`, shape by shape;
* `forms_agree`    it holds of every instruction.
-/

namespace ILTree.Inst

section
variable {i : Inst}

/-! ## constants and variables -/

/-- The wide constant is asked for first, then the narrow one, which is extended. -/
theorem int?_eq_or : i.int? = i.i8?.or (i.i4?.map Int32.toInt64) := by cases i <;> rfl

theorem isLoadOf_iff_loaded? {v : Variable} :
    i.isLoadOf v = true ↔ ∃ w, i.loaded? = some w ∧ w.same v = true := by
  simp only [isLoadOf_iff, loaded?_eq_some]

theorem isAddressOf_iff_addressed? {v : Variable} :
    i.isAddressOf v = true ↔ ∃ w, i.addressed? = some w ∧ w.same v = true := by
  simp only [isAddressOf_iff, addressed?_eq_some]

theorem referenced?_eq_some_iff {v : Variable} :
    i.referenced? = some v ↔
      (v.isReference = some true ∧ i.loaded? = some v) ∨
      (v.isReference ≠ some true ∧ i.addressed? = some v) := by
  simp only [referenced?_eq_some, loaded?_eq_some, addressed?_eq_some, and_comm]

theorem isReferenceTo_eq_ite {v : Variable} :
    i.isReferenceTo v = if v.isReference = some true then i.isLoadOf v else i.isAddressOf v := rfl

theorem isSome_storedTo? {v : Variable} :
    (i.storedTo? v).isSome = true ↔ ∃ w, i.stored? = some w ∧ w.same v = true := by
  simp only [Option.isSome_iff_exists, storedTo?_eq_some, stored?_eq_some]
  constructor
  · rintro ⟨x, w, h, rfl⟩
    exact ⟨w, ⟨x, rfl⟩, h⟩
  · rintro ⟨w, ⟨x, rfl⟩, h⟩
    exact ⟨x, w, h, rfl⟩

/-! ## transfers of control -/

theorem returned?_eq_some_iff {x : Inst} :
    i.returned? = some x ↔ ∃ c, c.isFunctionBody = true ∧ i.leave? = some (c, x) := by
  simp only [returned?_eq_some, leave?_eq_some]

theorem isSome_returned? : i.returned?.isSome = true ↔ i.leavesFunction = true := by
  simp only [Option.isSome_iff_exists, returned?_eq_some, leavesFunction_iff]
  exact exists_comm

theorem voidLeave?_eq_some_iff {c : Container} :
    i.voidLeave? = some c ↔ i.leave? = some (c, nop) := by
  rw [voidLeave?_eq_some, leave?_eq_some, leaveVoid]

/-! ## conditionals -/

theorem ifThen?_eq_some_iff {c t : Inst} :
    i.ifThen? = some (c, t) ↔ ∃ f, i.ifElse? = some (c, t, f) ∧ f.isNop = true := by
  simp only [ifThen?_eq_some, ifElse?_eq_some, isNop_iff, exists_eq_right, ifThen]

theorem and?_eq_some_iff {l r : Inst} :
    i.and? = some (l, r) ↔ ∃ f, i.ifElse? = some (l, r, f) ∧ f.isI4 0 = true := by
  simp only [and?_eq_some, ifElse?_eq_some, isI4_iff, exists_eq_right, shortAnd]

theorem or?_eq_some_iff {l r : Inst} :
    i.or? = some (l, r) ↔ ∃ t, i.ifElse? = some (l, t, r) ∧ t.isI4 1 = true := by
  simp only [or?_eq_some, ifElse?_eq_some, isI4_iff, exists_eq_right, shortOr]

/-- The false arm is absent for one and `0` for the other. -/
theorem ifThen?_or_and?_none : i.ifThen? = none ∨ i.and? = none := by
  cases hthen : i.ifThen? with
  | none => exact .inl rfl
  | some p =>
    refine .inr (Option.eq_none_iff_forall_ne_some.mpr fun q hand => ?_)
    have heq := (ifThen?_eq_some.mp hthen).symm.trans (and?_eq_some.mp hand)
    obtain ⟨-, -, hfalse⟩ := Inst.ifElse.inj heq
    cases hfalse

theorem isSome_and?_or? :
    i.and?.isSome = true ∧ i.or?.isSome = true ↔
      ∃ c, i = ifElse c (constI4 1) (constI4 0) := by
  simp only [Option.isSome_iff_exists, Prod.exists, and?_eq_some, or?_eq_some]
  constructor
  · rintro ⟨⟨c, t, rfl⟩, _, _, h⟩
    obtain ⟨rfl, rfl, rfl⟩ := Inst.ifElse.inj h
    exact ⟨c, rfl⟩
  · rintro ⟨c, rfl⟩
    exact ⟨⟨c, _, rfl⟩, c, _, rfl⟩

/-! ## comparisons -/

theorem comparisonOrNegated?_eq_or (k : Comparison) :
    i.comparisonOrNegated? k =
      (i.comparison? k).or (i.not?.bind fun x => x.comparison? k.negate) := by
  cases i with
  | compare j s l r => exact Option.or_none.symm
  | _ => rfl

/-! ## field access and arithmetic -/

theorem isFieldAddress_iff_isSome :
    i.isFieldAddress = true ↔
      i.fieldAddress?.isSome = true ∨ i.staticFieldAddress?.isSome = true := by
  simp only [Option.isSome_iff_exists, Prod.exists, isFieldAddress_iff, fieldAddress?_eq_some,
    staticFieldAddress?_eq_some]

theorem isBinary_iff_binary? {op : BinaryOperator} :
    i.isBinary op = true ↔ ∃ l r, i.binary? = some (op, l, r) := by
  simp only [isBinary_iff, binary?_eq_some]

end

/-! ## all shapes -/

/-- The tests, the patterns that ask for parts, and the patterns that give all parts. -/
structure FormsAgree (i : Inst) : Prop where
  isI4 : ∀ n, i.isI4 n = true ↔ i.i4? = some n
  int : i.int? = i.i8?.or (i.i4?.map Int32.toInt64)
  isLoadOf : ∀ v, i.isLoadOf v = true ↔ ∃ w, i.loaded? = some w ∧ w.same v = true
  isAddressOf : ∀ v, i.isAddressOf v = true ↔ ∃ w, i.addressed? = some w ∧ w.same v = true
  isReferenceTo : ∀ v,
    i.isReferenceTo v = if v.isReference = some true then i.isLoadOf v else i.isAddressOf v
  referenced : ∀ v, i.referenced? = some v ↔
    (v.isReference = some true ∧ i.loaded? = some v) ∨
    (v.isReference ≠ some true ∧ i.addressed? = some v)
  storedTo : ∀ v, (i.storedTo? v).isSome = true ↔ ∃ w, i.stored? = some w ∧ w.same v = true
  isBranchTo : ∀ b, i.isBranchTo b = true ↔ i.branch? = some b
  leaveTo : ∀ c x, i.leaveTo? c = some x ↔ i.leave? = some (c, x)
  returned : ∀ x, i.returned? = some x ↔ ∃ c, c.isFunctionBody = true ∧ i.leave? = some (c, x)
  leavesFunction : i.returned?.isSome = true ↔ i.leavesFunction = true
  voidLeave : ∀ c, i.voidLeave? = some c ↔ i.leave? = some (c, .nop)
  isVoidLeaveTo : ∀ c, i.voidLeave? = some c ↔ i.isVoidLeaveTo c = true
  voidLeaveTo : ∀ c, i.voidLeave? = some c ↔ i.leaveTo? c = some .nop
  ifThen : ∀ c t, i.ifThen? = some (c, t) ↔ ∃ f, i.ifElse? = some (c, t, f) ∧ f.isNop = true
  and : ∀ l r, i.and? = some (l, r) ↔ ∃ f, i.ifElse? = some (l, r, f) ∧ f.isI4 0 = true
  or : ∀ l r, i.or? = some (l, r) ↔ ∃ t, i.ifElse? = some (l, t, r) ∧ t.isI4 1 = true
  ifThen_and : i.ifThen? = none ∨ i.and? = none
  and_or : i.and?.isSome = true ∧ i.or?.isSome = true ↔
    ∃ c, i = .ifElse c (.constI4 1) (.constI4 0)
  equals : i.equals? =
    (i.comparison? .equality).or (i.not?.bind fun x => x.comparison? .inequality)
  notEquals : i.notEquals? =
    (i.comparison? .inequality).or (i.not?.bind fun x => x.comparison? .equality)
  isFieldAddress : i.isFieldAddress = true ↔
    i.fieldAddress?.isSome = true ∨ i.staticFieldAddress?.isSome = true
  isStaticFieldLoad : ∀ f, i.isStaticFieldLoad f = true ↔ i.staticFieldLoad? = some f
  isBinary : ∀ op, i.isBinary op = true ↔ ∃ l r, i.binary? = some (op, l, r)
  binaryOf : ∀ op l r, i.binaryOf? op = some (l, r) ↔ i.binary? = some (op, l, r)

/-- **The forms of a shape agree**, on every instruction and with every argument. -/
theorem forms_agree (i : Inst) : FormsAgree i where
  isI4 _ := isI4_iff.trans i4?_eq_some.symm
  int := int?_eq_or
  isLoadOf _ := isLoadOf_iff_loaded?
  isAddressOf _ := isAddressOf_iff_addressed?
  isReferenceTo _ := isReferenceTo_eq_ite
  referenced _ := referenced?_eq_some_iff
  storedTo _ := isSome_storedTo?
  isBranchTo _ := isBranchTo_iff.trans branch?_eq_some.symm
  leaveTo _ _ := leaveTo?_eq_some.trans leave?_eq_some.symm
  returned _ := returned?_eq_some_iff
  leavesFunction := isSome_returned?
  voidLeave _ := voidLeave?_eq_some_iff
  isVoidLeaveTo _ := voidLeave?_eq_some.trans isVoidLeaveTo_iff.symm
  voidLeaveTo _ := voidLeave?_eq_some.trans leaveTo?_eq_some.symm
  ifThen _ _ := ifThen?_eq_some_iff
  and _ _ := and?_eq_some_iff
  or _ _ := or?_eq_some_iff
  ifThen_and := ifThen?_or_and?_none
  and_or := isSome_and?_or?
  equals := comparisonOrNegated?_eq_or .equality
  notEquals := comparisonOrNegated?_eq_or .inequality
  isFieldAddress := isFieldAddress_iff_isSome
  isStaticFieldLoad _ := isStaticFieldLoad_iff.trans staticFieldLoad?_eq_some.symm
  isBinary _ := isBinary_iff_binary?
  binaryOf _ _ _ := binaryOf?_eq_some.trans binary?_eq_some.symm

end ILTree.Inst
