import Mathlib.Logic.ExistsUnique
import ILTree.Inst.Children
import ILTree.Proofs.Shape.Rules

/-!
# Every field access is of one sort

A field is read or written through its address, an operand of the load or store.  Two ways to go
through an address and two sorts of field addresses make four matchers; each access is for one of
them.

* `IsFieldAccess i`           `i` loads or stores through its first operand, and that is the address
                              of a field;
* `accessMatchers`            the four matchers;
* `Inst.accessedBy?`          the one of them that an access is for;
* `isSome_run_iff`            it is the one that accepts;
* `field_access_partition`    each access is accepted by one matcher, and nothing else by any.
-/

namespace ILTree

namespace Inst

section
variable {i j a x : Inst}

/-! ## through an address -/

theorem indirectLoad?_iff_children :
    i.indirectLoad? = some a ↔ i.opcode = .loadIndirect ∧ i.children[0]? = some a := by
  rw [indirectLoad?_eq_some]
  cases i <;> simp [opcode, head, Head.opcode, children]

theorem indirectStore?_iff_children :
    i.indirectStore? = some (a, x) ↔
      i.opcode = .storeIndirect ∧ i.children[0]? = some a ∧ i.children[1]? = some x := by
  rw [indirectStore?_eq_some]
  cases i <;> simp [opcode, head, Head.opcode, children]

theorem indirect_cases (ho : i.opcode = .loadIndirect ∨ i.opcode = .storeIndirect)
    (ha : i.children[0]? = some a) :
    (∃ t, i = loadIndirect a t) ∨ ∃ y t, i = storeIndirect a y t := by
  rcases ho with ho | ho
  · exact .inl (indirectLoad?_eq_some.mp (indirectLoad?_iff_children.mpr ⟨ho, ha⟩))
  · cases i with
    | storeIndirect b y t =>
      obtain rfl := Option.some.inj ha
      exact .inr ⟨y, t, rfl⟩
    | _ => cases ho

/-- The accessed type is all that code and operands leave open. -/
theorem indirectLoad?_congr (ho : j.opcode = i.opcode) (hc : j.children = i.children) :
    j.indirectLoad? = i.indirectLoad? := by
  refine Option.ext fun a => ?_
  rw [indirectLoad?_iff_children, indirectLoad?_iff_children, ho, hc]

theorem indirectStore?_congr (ho : j.opcode = i.opcode) (hc : j.children = i.children) :
    j.indirectStore? = i.indirectStore? := by
  refine Option.ext fun (a, x) => ?_
  rw [indirectStore?_iff_children, indirectStore?_iff_children, ho, hc]

/-! ## fields -/

section
variable {β : Type} {p : Inst → Option β} {b : β} (hp : ∀ {c : Inst}, p c = some b ↔ c = a)
include hp

/-- a load through the address that a pattern determines -/
theorem load_iff_children : (∃ t, i = loadIndirect a t) ↔
    i.opcode = .loadIndirect ∧ ∃ c, i.children[0]? = some c ∧ p c = some b := by
  simp only [hp, exists_eq_right]
  rw [← indirectLoad?_eq_some, indirectLoad?_iff_children]

/-- a store through the address that a pattern determines -/
theorem store_iff_children : (∃ t, i = storeIndirect a x t) ↔
    i.opcode = .storeIndirect ∧ i.children[1]? = some x ∧
      ∃ c, i.children[0]? = some c ∧ p c = some b := by
  simp only [hp, exists_eq_right]
  rw [← indirectStore?_eq_some, indirectStore?_iff_children,
    and_comm (a := i.children[1]? = some x)]

end

theorem staticFieldLoad?_iff_children {f : FieldRef} :
    i.staticFieldLoad? = some f ↔
      i.opcode = .loadIndirect ∧ ∃ c, i.children[0]? = some c ∧ c.staticFieldAddress? = some f :=
  staticFieldLoad?_eq_some.trans (load_iff_children staticFieldAddress?_eq_some)

theorem fieldLoad?_iff_children {f : FieldRef} :
    i.fieldLoad? = some (x, f) ↔
      i.opcode = .loadIndirect ∧ ∃ c, i.children[0]? = some c ∧ c.fieldAddress? = some (x, f) :=
  fieldLoad?_eq_some.trans (load_iff_children fieldAddress?_eq_some)

theorem staticFieldStore?_iff_children {f : FieldRef} :
    i.staticFieldStore? = some (f, x) ↔
      i.opcode = .storeIndirect ∧ i.children[1]? = some x ∧
        ∃ c, i.children[0]? = some c ∧ c.staticFieldAddress? = some f :=
  staticFieldStore?_eq_some.trans (store_iff_children staticFieldAddress?_eq_some)

theorem fieldStore?_iff_children {f : FieldRef} {y : Inst} :
    i.fieldStore? = some (x, f, y) ↔
      i.opcode = .storeIndirect ∧ i.children[1]? = some y ∧
        ∃ c, i.children[0]? = some c ∧ c.fieldAddress? = some (x, f) :=
  fieldStore?_eq_some.trans (store_iff_children fieldAddress?_eq_some)

/-! ## the static field of a load -/

theorem isStaticFieldLoad_eq {f : FieldRef} :
    i.isStaticFieldLoad f = true ↔ i.staticFieldLoad? = some f := beq_iff_eq

theorem existsUnique_isStaticFieldLoad (h : i.staticFieldLoad?.isSome = true) :
    ∃! f, i.isStaticFieldLoad f = true := by
  obtain ⟨f, hf⟩ := Option.isSome_iff_exists.mp h
  refine ⟨f, isStaticFieldLoad_eq.mpr hf, fun g hg => ?_⟩
  have hsome : some g = some f := (isStaticFieldLoad_eq.mp hg).symm.trans hf
  exact Option.some.inj hsome

end

/-! ## accesses -/

/-- a load or store through its first operand, and that is the address of a field -/
def IsFieldAccess (i : Inst) : Prop :=
  (i.opcode = .loadIndirect ∨ i.opcode = .storeIndirect) ∧
    ∃ a, i.children[0]? = some a ∧ a.isFieldAddress = true

/-- the matcher that an access is for -/
def accessedBy? : Inst → Option Matcher
  | loadIndirect (loadStaticFieldAddr _) _ => some .staticFieldLoad
  | loadIndirect (loadFieldAddr _ _) _ => some .fieldLoad
  | storeIndirect (loadStaticFieldAddr _) _ _ => some .staticFieldStore
  | storeIndirect (loadFieldAddr _ _) _ _ => some .fieldStore
  | _ => none

/-- Code and address together are one of four shapes. -/
theorem isFieldAccess_iff {i : Inst} : IsFieldAccess i ↔ ∃ m, i.accessedBy? = some m := by
  constructor
  · rintro ⟨ho, a, ha, hfield⟩
    rcases indirect_cases ho ha with ⟨t, rfl⟩ | ⟨y, t, rfl⟩
    · rcases isFieldAddress_iff.mp hfield with ⟨x, f, rfl⟩ | ⟨f, rfl⟩
      · exact ⟨.fieldLoad, rfl⟩
      · exact ⟨.staticFieldLoad, rfl⟩
    · rcases isFieldAddress_iff.mp hfield with ⟨x, f, rfl⟩ | ⟨f, rfl⟩
      · exact ⟨.fieldStore, rfl⟩
      · exact ⟨.staticFieldStore, rfl⟩
  · rintro ⟨m, h⟩
    unfold accessedBy? at h
    split at h
    next => exact ⟨.inl rfl, _, rfl, rfl⟩
    next => exact ⟨.inl rfl, _, rfl, rfl⟩
    next => exact ⟨.inr rfl, _, rfl, rfl⟩
    next => exact ⟨.inr rfl, _, rfl, rfl⟩
    next => cases h

end Inst

namespace Matcher
open Inst (IsFieldAccess)

def accessMatchers : List Matcher := [staticFieldLoad, fieldLoad, staticFieldStore, fieldStore]

section
variable {m : Matcher} {i j : Inst} {cs : List Capture}

theorem mem_of_accessedBy? (h : i.accessedBy? = some m) : m ∈ accessMatchers := by
  unfold Inst.accessedBy? at h
  split at h <;> cases h <;> simp [accessMatchers]

theorem accessedBy?_of_gives (hm : m ∈ accessMatchers) (h : Gives m i cs) :
    i.accessedBy? = some m := by
  cases h with
  | staticFieldLoad f t => rfl
  | fieldLoad x f t => rfl
  | staticFieldStore f y t => rfl
  | fieldStore x f y t => rfl
  | _ => simp [accessMatchers] at hm

theorem isSome_run_of_accessedBy? (h : i.accessedBy? = some m) : (m.run i).isSome = true := by
  unfold Inst.accessedBy? at h
  split at h <;> cases h <;> rfl

theorem isSome_run_iff (hm : m ∈ accessMatchers) :
    (m.run i).isSome = true ↔ i.accessedBy? = some m := by
  constructor
  · intro h
    obtain ⟨cs, hcs⟩ := Option.isSome_iff_exists.mp h
    exact accessedBy?_of_gives hm (gives_of_run hcs)
  · exact isSome_run_of_accessedBy?

theorem existsUnique_accessMatcher (h : IsFieldAccess i) :
    ∃! m, m ∈ accessMatchers ∧ (m.run i).isSome = true := by
  obtain ⟨m, hm⟩ := Inst.isFieldAccess_iff.mp h
  refine ⟨m, ⟨mem_of_accessedBy? hm, isSome_run_of_accessedBy? hm⟩, fun n ⟨hn, haccepts⟩ => ?_⟩
  have hn' : i.accessedBy? = some n := (isSome_run_iff hn).mp haccepts
  exact Option.some.inj (hn'.symm.trans hm)

theorem run_eq_none_of_not_access (h : ¬ IsFieldAccess i) (hm : m ∈ accessMatchers) :
    m.run i = none := by
  rw [← Option.not_isSome_iff_eq_none, isSome_run_iff hm]
  intro hm'
  exact h (Inst.isFieldAccess_iff.mpr ⟨m, hm'⟩)

/-- All four go through the address and read nothing else of the access. -/
theorem run_accessMatcher_congr (ho : j.opcode = i.opcode) (hc : j.children = i.children)
    (hm : m ∈ accessMatchers) : m.run j = m.run i := by
  have hload : j.indirectLoad? = i.indirectLoad? := Inst.indirectLoad?_congr ho hc
  have hstore : j.indirectStore? = i.indirectStore? := Inst.indirectStore?_congr ho hc
  simp only [accessMatchers, List.mem_cons, List.not_mem_nil, or_false] at hm
  rcases hm with rfl | rfl | rfl | rfl
  · simp only [run, Inst.staticFieldLoad?, hload]
  · simp only [run, Inst.fieldLoad?, hload]
  · simp only [run, Inst.staticFieldStore?, hstore]
  · simp only [run, Inst.fieldStore?, hstore]

end

/-- **Field accesses are partitioned.**  An instruction that loads or stores through its first
operand, where that is the address of a field, is accepted by exactly one of the four matchers, and
any other instruction by none.  Which one it is depends on whether it loads or stores, and on which
sort of address the first operand is: the field and the object are the ones of the address, and the
value of a store is the second operand.  Instructions of one code with the same operands are
accepted with the same parts, whatever type they access.  A load that reads a static field reads
one static field, and others read none. -/
theorem field_access_partition (i : Inst) :
    (IsFieldAccess i → ∃! m, m ∈ accessMatchers ∧ (m.run i).isSome = true) ∧
    (¬ IsFieldAccess i → ∀ m ∈ accessMatchers, m.run i = none) ∧
    (∀ f, i.staticFieldLoad? = some f ↔
      i.opcode = .loadIndirect ∧ ∃ a, i.children[0]? = some a ∧ a.staticFieldAddress? = some f) ∧
    (∀ x f, i.fieldLoad? = some (x, f) ↔
      i.opcode = .loadIndirect ∧ ∃ a, i.children[0]? = some a ∧ a.fieldAddress? = some (x, f)) ∧
    (∀ f y, i.staticFieldStore? = some (f, y) ↔
      i.opcode = .storeIndirect ∧ i.children[1]? = some y ∧
        ∃ a, i.children[0]? = some a ∧ a.staticFieldAddress? = some f) ∧
    (∀ x f y, i.fieldStore? = some (x, f, y) ↔
      i.opcode = .storeIndirect ∧ i.children[1]? = some y ∧
        ∃ a, i.children[0]? = some a ∧ a.fieldAddress? = some (x, f)) ∧
    (∀ j : Inst, j.opcode = i.opcode → j.children = i.children →
      ∀ m ∈ accessMatchers, m.run j = m.run i) ∧
    (i.staticFieldLoad?.isSome = true → ∃! f, i.isStaticFieldLoad f = true) ∧
    (i.staticFieldLoad? = none → ∀ f, i.isStaticFieldLoad f = false) := by
  refine ⟨existsUnique_accessMatcher, fun h m hm => run_eq_none_of_not_access h hm,
    fun f => Inst.staticFieldLoad?_iff_children, fun x f => Inst.fieldLoad?_iff_children,
    fun f y => Inst.staticFieldStore?_iff_children, fun x f y => Inst.fieldStore?_iff_children,
    fun j ho hc m hm => run_accessMatcher_congr ho hc hm, Inst.existsUnique_isStaticFieldLoad,
    fun h f => ?_⟩
  rw [Bool.eq_false_iff, Ne, Inst.isStaticFieldLoad_eq, h]
  intro hnone
  cases hnone

/-- A store to a static field of a value that is itself read from a field, at two types.  The
address alone is no access. -/
theorem field_access_partition_nested :
    let f : FieldRef := ⟨⟨0x04000001⟩⟩
    let a : Inst := .loadStaticFieldAddr f
    let y : Inst := .loadIndirect (.loadFieldAddr .constNull f) .i32
    let i : Inst := .storeIndirect a y .i32
    let j : Inst := .storeIndirect a y .object
    IsFieldAccess i ∧ (∃! m, m ∈ accessMatchers ∧ (m.run i).isSome = true) ∧
    i.staticFieldStore? = some (f, y) ∧ run j .staticFieldStore = run i .staticFieldStore ∧
    ¬ IsFieldAccess a ∧ run a .staticFieldLoad = none ∧ i.isStaticFieldLoad f = false ∧
    ∃! g, (Inst.loadIndirect a .i32).isStaticFieldLoad g = true := by
  intro f a y i j
  have hi : IsFieldAccess i := ⟨.inr rfl, a, rfl, rfl⟩
  have ha : ¬ IsFieldAccess a := by
    rintro ⟨ho | ho, -⟩ <;> cases ho
  obtain ⟨hone, -, -, -, hstore, -, htype, -, hnone⟩ := field_access_partition i
  obtain ⟨-, hother, -⟩ := field_access_partition a
  obtain ⟨-, -, -, -, -, -, -, hread, -⟩ := field_access_partition (.loadIndirect a .i32)
  exact ⟨hi, hone hi, (hstore f y).mpr ⟨rfl, rfl, a, rfl, rfl⟩,
    htype j rfl rfl .staticFieldStore (by simp [accessMatchers]), ha,
    hother ha .staticFieldLoad (by simp [accessMatchers]), hnone rfl f, hread rfl⟩

end Matcher

end ILTree
