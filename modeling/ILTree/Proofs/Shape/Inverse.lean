import ILTree.Shape.Node
import ILTree.Shape.Exit
import ILTree.Shape.Boolean
import ILTree.Shape.FieldAccess

/-!
# Patterns and constructors are inverse

What a pattern gives is what the instruction was built from.  One lemma for each shape says which
instructions have it and with which parts, so that no later proof looks into the pattern again.

* `isI4_iff`, `leaveTo?_eq_some`, …   the instructions of a shape, for each test and each pattern;
* `Lossless i`        the patterns that give all that the constructor takes;
* `Lossy i`           the patterns that leave something out, and what that is;
* `patterns_inverse`  both, for every instruction.
-/

namespace ILTree.Inst

/-! ## constants -/

section
variable {i : Inst}

theorem isNop_iff : i.isNop = true ↔ i = nop := by cases i <;> simp [isNop]

theorem isNull_iff : i.isNull = true ↔ i = constNull := by cases i <;> simp [isNull]

theorem isI4_iff {n : Int32} : i.isI4 n = true ↔ i = constI4 n := by cases i <;> simp [isI4]

theorem i4?_eq_some {n : Int32} : i.i4? = some n ↔ i = constI4 n := by cases i <;> simp [i4?]

theorem i8?_eq_some {n : Int64} : i.i8? = some n ↔ i = constI8 n := by cases i <;> simp [i8?]

/-- Integers of both widths are taken, the narrow ones extended. -/
theorem int?_eq_some {n : Int64} :
    i.int? = some n ↔ i = constI8 n ∨ ∃ m : Int32, i = constI4 m ∧ m.toInt64 = n := by
  cases i <;> simp [int?]

theorem string?_eq_some {s : String} : i.string? = some s ↔ i = constString s := by
  cases i <;> simp [string?]

/-! ## variables -/

theorem isLoadOf_iff {v : Variable} :
    i.isLoadOf v = true ↔ ∃ w, i = loadLocal w ∧ w.same v = true := by
  cases i <;> simp [isLoadOf]

theorem isAddressOf_iff {v : Variable} :
    i.isAddressOf v = true ↔ ∃ w, i = loadLocalAddr w ∧ w.same v = true := by
  cases i <;> simp [isAddressOf]

theorem loaded?_eq_some {v : Variable} : i.loaded? = some v ↔ i = loadLocal v := by
  cases i <;> simp [loaded?]

theorem addressed?_eq_some {v : Variable} : i.addressed? = some v ↔ i = loadLocalAddr v := by
  cases i <;> simp [addressed?]

theorem isLoadOfThis_iff : i.isLoadOfThis = true ↔ ∃ v, i = loadLocal v ∧ v.isThis = true := by
  cases i <;> simp [isLoadOfThis]

theorem referenced?_eq_some {u : Variable} :
    i.referenced? = some u ↔
      (i = loadLocal u ∧ u.isReference = some true) ∨
      (i = loadLocalAddr u ∧ u.isReference ≠ some true) := by
  cases i with
  | loadLocal w =>
    simp only [referenced?, Option.ite_none_right_eq_some, Option.some.injEq, loadLocal.injEq,
      reduceCtorEq, false_and, or_false]
    constructor
    · rintro ⟨hr, rfl⟩
      exact ⟨rfl, hr⟩
    · rintro ⟨rfl, hr⟩
      exact ⟨hr, rfl⟩
  | loadLocalAddr w =>
    simp only [referenced?, Option.ite_none_left_eq_some, Option.some.injEq, loadLocalAddr.injEq,
      reduceCtorEq, false_and, false_or]
    constructor
    · rintro ⟨hr, rfl⟩
      exact ⟨rfl, hr⟩
    · rintro ⟨rfl, hr⟩
      exact ⟨hr, rfl⟩
  | _ => simp [referenced?]

theorem isReferenceTo_iff {v : Variable} :
    i.isReferenceTo v = true ↔
      (v.isReference = some true ∧ ∃ u, i = loadLocal u ∧ u.same v = true) ∨
      (v.isReference ≠ some true ∧ ∃ u, i = loadLocalAddr u ∧ u.same v = true) := by
  rw [isReferenceTo]
  split
  next h => simp [isLoadOf_iff, h]
  next h => simp [isAddressOf_iff, h]

theorem stored?_eq_some {v : Variable} : i.stored? = some v ↔ ∃ x, i = storeLocal v x := by
  cases i <;> simp [stored?]

theorem storedTo?_eq_some {v : Variable} {x : Inst} :
    i.storedTo? v = some x ↔ ∃ w, w.same v = true ∧ i = storeLocal w x := by
  cases i with
  | storeLocal w y =>
    simp only [storedTo?, Option.ite_none_right_eq_some, Option.some.injEq, storeLocal.injEq]
    constructor
    · rintro ⟨h, rfl⟩
      exact ⟨w, h, rfl, rfl⟩
    · rintro ⟨_, h, rfl, rfl⟩
      exact ⟨h, rfl⟩
  | _ => simp [storedTo?]

theorem handled?_eq_some {v : Variable} :
    i.handled? = some v ↔ ∃ f b, i = catchHandler v f b := by
  cases i <;> simp [handled?]

/-! ## lengths and arithmetic -/

theorem arrayLength?_eq_some {t : StackType} {a : Inst} :
    i.arrayLength? t = some a ↔ i = .arrayLength t a := by
  cases i <;> simp [arrayLength?]

theorem isBinary_iff {op : BinaryOperator} :
    i.isBinary op = true ↔ ∃ l r ovf s, i = binaryNumeric op l r ovf s := by
  cases i <;> simp [isBinary]

theorem binary?_eq_some {op : BinaryOperator} {l r : Inst} :
    i.binary? = some (op, l, r) ↔ ∃ ovf s, i = binaryNumeric op l r ovf s := by
  cases i <;> simp [binary?]

theorem binaryOf?_eq_some {op : BinaryOperator} {l r : Inst} :
    i.binaryOf? op = some (l, r) ↔ ∃ ovf s, i = binaryNumeric op l r ovf s := by
  cases i <;> simp [binaryOf?]

/-! ## transfers of control -/

theorem branch?_eq_some {b : Block} : i.branch? = some b ↔ i = branch b := by
  cases i <;> simp [branch?]

theorem isBranchTo_iff {b : Block} : i.isBranchTo b = true ↔ i = branch b := by
  cases i <;> simp [isBranchTo]

theorem leave?_eq_some {c : Container} {x : Inst} :
    i.leave? = some (c, x) ↔ i = leave c x := by
  cases i <;> simp [leave?]

theorem leaveTo?_eq_some {c : Container} {x : Inst} :
    i.leaveTo? c = some x ↔ i = leave c x := by
  cases i <;> simp [leaveTo?]

theorem voidLeave?_eq_some {c : Container} : i.voidLeave? = some c ↔ i = leaveVoid c := by
  cases i with
  | leave d x => cases x <;> simp [voidLeave?, leaveVoid]
  | _ => simp [voidLeave?, leaveVoid]

theorem isVoidLeaveTo_iff {c : Container} : i.isVoidLeaveTo c = true ↔ i = leaveVoid c := by
  rw [isVoidLeaveTo, beq_iff_eq, voidLeave?_eq_some]

theorem leavesFunction_iff :
    i.leavesFunction = true ↔ ∃ c x, c.isFunctionBody = true ∧ i = leave c x := by
  cases i <;> simp [leavesFunction]

theorem returned?_eq_some {x : Inst} :
    i.returned? = some x ↔ ∃ c, c.isFunctionBody = true ∧ i = leave c x := by
  cases i with
  | leave d y =>
    simp only [returned?, Option.ite_none_right_eq_some, Option.some.injEq, leave.injEq]
    constructor
    · rintro ⟨h, rfl⟩
      exact ⟨d, h, rfl, rfl⟩
    · rintro ⟨_, h, rfl, rfl⟩
      exact ⟨h, rfl⟩
  | _ => simp [returned?]

/-! ## conditionals and operators -/

theorem ifElse?_eq_some {c t f : Inst} : i.ifElse? = some (c, t, f) ↔ i = ifElse c t f := by
  cases i <;> simp [ifElse?]

theorem ifThen?_eq_some {c t : Inst} : i.ifThen? = some (c, t) ↔ i = ifThen c t := by
  cases i with
  | ifElse x y z =>
    simp only [ifThen?, ifThen, Option.ite_none_right_eq_some, isNop_iff, Option.some.injEq,
      Prod.mk.injEq, ifElse.injEq]
    exact and_rotate
  | _ => simp [ifThen?, ifThen]

theorem and?_eq_some {l r : Inst} : i.and? = some (l, r) ↔ i = shortAnd l r := by
  cases i with
  | ifElse c t f =>
    simp only [and?, shortAnd, Option.ite_none_right_eq_some, isI4_iff, Option.some.injEq,
      Prod.mk.injEq, ifElse.injEq]
    exact and_rotate
  | _ => simp [and?, shortAnd]

theorem or?_eq_some {l r : Inst} : i.or? = some (l, r) ↔ i = shortOr l r := by
  cases i with
  | ifElse c t f =>
    simp only [or?, shortOr, Option.ite_none_right_eq_some, isI4_iff, Option.some.injEq,
      Prod.mk.injEq, ifElse.injEq]
    exact and_left_comm
  | _ => simp [or?, shortOr]

theorem not?_eq_some {x : Inst} : i.not? = some x ↔ i = logicNot x := by
  cases i <;> simp [not?]

/-! ## comparisons -/

theorem comparison?_eq_some {k : Comparison} {l r : Inst} :
    i.comparison? k = some (l, r) ↔ ∃ s, i = compare k s l r := by
  cases i with
  | compare j s x y =>
    simp only [comparison?, Option.ite_none_right_eq_some, Option.some.injEq, Prod.mk.injEq,
      compare.injEq]
    constructor
    · rintro ⟨rfl, rfl, rfl⟩
      exact ⟨s, rfl, rfl, rfl, rfl⟩
    · rintro ⟨_, rfl, _, rfl, rfl⟩
      exact ⟨rfl, rfl, rfl⟩
  | _ => simp [comparison?]

/-- Only one negation is looked through. -/
theorem comparisonOrNegated?_eq_some {k : Comparison} {l r : Inst} :
    i.comparisonOrNegated? k = some (l, r) ↔
      ∃ s, i = compare k s l r ∨ i = logicNot (compare k.negate s l r) := by
  cases i with
  | logicNot x => simp [comparisonOrNegated?, comparison?_eq_some]
  | _ => simp [comparisonOrNegated?, comparison?_eq_some]

theorem equals?_eq_some {l r : Inst} :
    i.equals? = some (l, r) ↔
      ∃ s, i = compare .equality s l r ∨ i = logicNot (compare .inequality s l r) :=
  comparisonOrNegated?_eq_some

theorem notEquals?_eq_some {l r : Inst} :
    i.notEquals? = some (l, r) ↔
      ∃ s, i = compare .inequality s l r ∨ i = logicNot (compare .equality s l r) :=
  comparisonOrNegated?_eq_some

/-! ## addresses -/

theorem fieldAddress?_eq_some {x : Inst} {f : FieldRef} :
    i.fieldAddress? = some (x, f) ↔ i = loadFieldAddr x f := by
  cases i <;> simp [fieldAddress?]

theorem staticFieldAddress?_eq_some {f : FieldRef} :
    i.staticFieldAddress? = some f ↔ i = loadStaticFieldAddr f := by
  cases i <;> simp [staticFieldAddress?]

theorem isFieldAddress_iff :
    i.isFieldAddress = true ↔ (∃ x f, i = loadFieldAddr x f) ∨ ∃ f, i = loadStaticFieldAddr f := by
  cases i <;> simp [isFieldAddress]

theorem indirectLoad?_eq_some {a : Inst} :
    i.indirectLoad? = some a ↔ ∃ t, i = loadIndirect a t := by
  cases i <;> simp [indirectLoad?]

theorem indirectStore?_eq_some {a x : Inst} :
    i.indirectStore? = some (a, x) ↔ ∃ t, i = storeIndirect a x t := by
  cases i <;> simp [indirectStore?]

/-! ## field access: an address and an access through it -/

/-- A load through an address that a pattern for addresses determines. -/
theorem bind_indirectLoad?_eq_some {β : Type} {p : Inst → Option β} {b : β} {a : Inst}
    (hp : ∀ {j : Inst}, p j = some b ↔ j = a) :
    i.indirectLoad?.bind p = some b ↔ ∃ t, i = loadIndirect a t := by
  simp only [Option.bind_eq_some_iff, indirectLoad?_eq_some, hp]
  constructor
  · rintro ⟨_, ⟨t, rfl⟩, rfl⟩
    exact ⟨t, rfl⟩
  · rintro ⟨t, rfl⟩
    exact ⟨a, ⟨t, rfl⟩, rfl⟩

theorem fieldLoad?_eq_some {x : Inst} {f : FieldRef} :
    i.fieldLoad? = some (x, f) ↔ ∃ t, i = loadIndirect (loadFieldAddr x f) t :=
  bind_indirectLoad?_eq_some fieldAddress?_eq_some

theorem staticFieldLoad?_eq_some {f : FieldRef} :
    i.staticFieldLoad? = some f ↔ ∃ t, i = loadIndirect (loadStaticFieldAddr f) t :=
  bind_indirectLoad?_eq_some staticFieldAddress?_eq_some

theorem isStaticFieldLoad_iff {f : FieldRef} :
    i.isStaticFieldLoad f = true ↔ ∃ t, i = loadIndirect (loadStaticFieldAddr f) t := by
  rw [isStaticFieldLoad, beq_iff_eq, staticFieldLoad?_eq_some]

theorem fieldStore?_eq_some {x y : Inst} {f : FieldRef} :
    i.fieldStore? = some (x, f, y) ↔ ∃ t, i = storeIndirect (loadFieldAddr x f) y t := by
  simp only [fieldStore?, Option.bind_eq_bind, Option.bind_eq_some_iff, Prod.exists,
    indirectStore?_eq_some, fieldAddress?_eq_some, Option.pure_def, Option.some.injEq,
    Prod.mk.injEq]
  constructor
  · rintro ⟨_, _, ⟨t, rfl⟩, _, _, rfl, rfl, rfl, rfl⟩
    exact ⟨t, rfl⟩
  · rintro ⟨t, rfl⟩
    exact ⟨_, _, ⟨t, rfl⟩, _, _, rfl, rfl, rfl, rfl⟩

theorem staticFieldStore?_eq_some {x : Inst} {f : FieldRef} :
    i.staticFieldStore? = some (f, x) ↔ ∃ t, i = storeIndirect (loadStaticFieldAddr f) x t := by
  simp only [staticFieldStore?, Option.bind_eq_bind, Option.bind_eq_some_iff, Prod.exists,
    indirectStore?_eq_some, staticFieldAddress?_eq_some, Option.pure_def, Option.some.injEq,
    Prod.mk.injEq]
  constructor
  · rintro ⟨_, _, ⟨t, rfl⟩, _, rfl, rfl, rfl⟩
    exact ⟨t, rfl⟩
  · rintro ⟨t, rfl⟩
    exact ⟨_, _, ⟨t, rfl⟩, _, rfl, rfl, rfl⟩

end

/-! ## all patterns -/

/-- These patterns give some parts exactly of the instruction that is built from them. -/
structure Lossless (i : Inst) : Prop where
  i4 : ∀ n, i.i4? = some n ↔ i = .constI4 n
  i8 : ∀ n, i.i8? = some n ↔ i = .constI8 n
  string : ∀ s, i.string? = some s ↔ i = .constString s
  loaded : ∀ v, i.loaded? = some v ↔ i = .loadLocal v
  addressed : ∀ v, i.addressed? = some v ↔ i = .loadLocalAddr v
  /-- the type of the variable tells which of the two it is -/
  referenced : ∀ v, i.referenced? = some v ↔
    i = if v.isReference = some true then .loadLocal v else .loadLocalAddr v
  arrayLength : ∀ t a, i.arrayLength? t = some a ↔ i = .arrayLength t a
  leave : ∀ c x, i.leave? = some (c, x) ↔ i = .leave c x
  leaveTo : ∀ c x, i.leaveTo? c = some x ↔ i = .leave c x
  voidLeave : ∀ c, i.voidLeave? = some c ↔ i = .leaveVoid c
  branch : ∀ b, i.branch? = some b ↔ i = .branch b
  ifElse : ∀ c t f, i.ifElse? = some (c, t, f) ↔ i = .ifElse c t f
  ifThen : ∀ c t, i.ifThen? = some (c, t) ↔ i = .ifThen c t
  and : ∀ l r, i.and? = some (l, r) ↔ i = .ifElse l r (.constI4 0)
  or : ∀ l r, i.or? = some (l, r) ↔ i = .ifElse l (.constI4 1) r
  not : ∀ x, i.not? = some x ↔ i = .logicNot x
  fieldAddress : ∀ x f, i.fieldAddress? = some (x, f) ↔ i = .loadFieldAddr x f
  staticFieldAddress : ∀ f, i.staticFieldAddress? = some f ↔ i = .loadStaticFieldAddr f

/-- These patterns give some parts exactly of the instructions that are built from them and from
any value of what the pattern leaves out. -/
structure Lossy (i : Inst) : Prop where
  /-- the width -/
  int : ∀ n, i.int? = some n ↔ i = .constI8 n ∨ ∃ m : Int32, m.toInt64 = n ∧ i = .constI4 m
  /-- the value stored -/
  stored : ∀ v, i.stored? = some v ↔ ∃ x, i = .storeLocal v x
  /-- all of the variable but its id -/
  storedTo : ∀ v x, i.storedTo? v = some x ↔ ∃ w, w.id = v.id ∧ i = .storeLocal w x
  /-- filter and body -/
  handled : ∀ v, i.handled? = some v ↔ ∃ f b, i = .catchHandler v f b
  /-- which function it is -/
  returned : ∀ x, i.returned? = some x ↔ ∃ c, c.kind = .function ∧ i = .leave c x
  /-- the sign -/
  comparison : ∀ k l r, i.comparison? k = some (l, r) ↔ ∃ s, i = .compare k s l r
  /-- the sign, and which of the two ways to write it -/
  equals : ∀ l r, i.equals? = some (l, r) ↔
    ∃ s, i = .compare .equality s l r ∨ i = .logicNot (.compare .inequality s l r)
  /-- the sign, and which of the two ways to write it -/
  notEquals : ∀ l r, i.notEquals? = some (l, r) ↔
    ∃ s, i = .compare .inequality s l r ∨ i = .logicNot (.compare .equality s l r)
  /-- the check and the sign -/
  binary : ∀ op l r, i.binary? = some (op, l, r) ↔ ∃ ovf s, i = .binaryNumeric op l r ovf s
  /-- the check and the sign -/
  binaryOf : ∀ op l r, i.binaryOf? op = some (l, r) ↔ ∃ ovf s, i = .binaryNumeric op l r ovf s
  /-- the type accessed, here and below -/
  fieldLoad : ∀ x f, i.fieldLoad? = some (x, f) ↔ ∃ t, i = .loadIndirect (.loadFieldAddr x f) t
  staticFieldLoad : ∀ f, i.staticFieldLoad? = some f ↔
    ∃ t, i = .loadIndirect (.loadStaticFieldAddr f) t
  fieldStore : ∀ x f y, i.fieldStore? = some (x, f, y) ↔
    ∃ t, i = .storeIndirect (.loadFieldAddr x f) y t
  staticFieldStore : ∀ f x, i.staticFieldStore? = some (f, x) ↔
    ∃ t, i = .storeIndirect (.loadStaticFieldAddr f) x t

theorem lossless (i : Inst) : Lossless i where
  i4 _ := i4?_eq_some
  i8 _ := i8?_eq_some
  string _ := string?_eq_some
  loaded _ := loaded?_eq_some
  addressed _ := addressed?_eq_some
  referenced v := by
    rw [referenced?_eq_some]
    split <;> simp [*]
  arrayLength _ _ := arrayLength?_eq_some
  leave _ _ := leave?_eq_some
  leaveTo _ _ := leaveTo?_eq_some
  voidLeave _ := voidLeave?_eq_some
  branch _ := branch?_eq_some
  ifElse _ _ _ := ifElse?_eq_some
  ifThen _ _ := ifThen?_eq_some
  and _ _ := and?_eq_some
  or _ _ := or?_eq_some
  not _ := not?_eq_some
  fieldAddress _ _ := fieldAddress?_eq_some
  staticFieldAddress _ := staticFieldAddress?_eq_some

theorem lossy (i : Inst) : Lossy i where
  int _ := by simp only [int?_eq_some, and_comm]
  stored _ := stored?_eq_some
  storedTo _ _ := by simp only [storedTo?_eq_some, Variable.same_iff]
  handled _ := handled?_eq_some
  returned _ := by simp only [returned?_eq_some, Container.isFunctionBody, beq_iff_eq]
  comparison _ _ _ := comparison?_eq_some
  equals _ _ := equals?_eq_some
  notEquals _ _ := notEquals?_eq_some
  binary _ _ _ := binary?_eq_some
  binaryOf _ _ _ := binaryOf?_eq_some
  fieldLoad _ _ := fieldLoad?_eq_some
  staticFieldLoad _ := staticFieldLoad?_eq_some
  fieldStore _ _ _ := fieldStore?_eq_some
  staticFieldStore _ _ := staticFieldStore?_eq_some

/-- **Patterns and constructors are inverse.**  For every instruction and all parts: a pattern that
gives all that its constructor takes gives these parts exactly if the instruction is what the
constructor makes of them, and one that leaves something out, exactly if it is what the constructor
makes of them with some value of what was left out. -/
theorem patterns_inverse (i : Inst) : Lossless i ∧ Lossy i := ⟨lossless i, lossy i⟩

end ILTree.Inst
