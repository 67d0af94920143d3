import ILTree.Proofs.Inst.Walk
import ILTree.Proofs.Shape.Position

/-!
# Sameness is an equivalence but for NaN

Three comparisons meet in that of trees: doubles compare as numbers, variables by id, and all else as
it is.  Each of them is symmetric and transitive, and only the one of doubles is not reflexive.

* `Double.same_symm`, `Double.same_trans`, `Double.same_self_iff`   doubles;
* `Head.Same`            one rule for each way in which heads compare (`Head.same_iff`);
* `same_symm`, `same_trans`   trees, by induction on the first of them;
* `HoldsNaN i`           a NaN stands at some node of `i`;
* `same_self_iff`        a tree is the same as itself exactly if it holds none;
* `same_self_of_descend` what is below such a tree is such a tree;
* `same_equivalence`     all of it, with what matchers capture.
-/

namespace ILTree

/-! ## doubles -/

namespace Double

theorem same_iff (a b : Double) : a.same b = true ↔
    a.isNaN = false ∧ b.isNaN = false ∧ (a = b ∨ a.isZero = true ∧ b.isZero = true) := by
  have hbits : a.bits = b.bits ↔ a = b := by
    obtain ⟨x⟩ := a
    obtain ⟨y⟩ := b
    rw [mk.injEq]
  rw [same, Bool.and_eq_true, Bool.and_eq_true, Bool.or_eq_true, Bool.and_eq_true, beq_iff_eq,
    Bool.not_eq_true', Bool.not_eq_true', hbits, and_assoc]

theorem same_symm {a b : Double} (h : a.same b = true) : b.same a = true := by
  obtain ⟨ha, hb, h⟩ := (same_iff a b).mp h
  apply (same_iff b a).mpr
  refine ⟨hb, ha, ?_⟩
  rcases h with rfl | ⟨hza, hzb⟩
  · exact .inl rfl
  · exact .inr ⟨hzb, hza⟩

theorem same_trans {a b c : Double} (h : a.same b = true) (h' : b.same c = true) :
    a.same c = true := by
  obtain ⟨ha, -, hab⟩ := (same_iff a b).mp h
  obtain ⟨-, hc, hbc⟩ := (same_iff b c).mp h'
  apply (same_iff a c).mpr
  refine ⟨ha, hc, ?_⟩
  rcases hab with rfl | ⟨hza, hzb⟩
  · exact hbc
  · rcases hbc with rfl | ⟨-, hzc⟩
    · exact .inr ⟨hza, hzb⟩
    · exact .inr ⟨hza, hzc⟩

theorem same_self_iff (a : Double) : a.same a = true ↔ a.isNaN = false := by
  rw [same_iff]
  exact ⟨fun h => h.1, fun h => ⟨h, h, .inl rfl⟩⟩

end Double

/-! ## heads -/

namespace Head

/-- two heads that compare as the same, with what is compared -/
inductive Same : Head → Head → Prop where
  | constF8 {x y : Double} (h : x.same y = true) : Same (.constF8 x) (.constF8 y)
  | loadLocal {v w : Variable} (h : v.id = w.id) : Same (.loadLocal v) (.loadLocal w)
  | loadLocalAddr {v w : Variable} (h : v.id = w.id) : Same (.loadLocalAddr v) (.loadLocalAddr w)
  | storeLocal {v w : Variable} (h : v.id = w.id) : Same (.storeLocal v) (.storeLocal w)
  | catchHandler {v w : Variable} (h : v.id = w.id) : Same (.catchHandler v) (.catchHandler w)
  | other (a : Head) (h : ∀ x, a ≠ .constF8 x) : Same a a

theorem same_iff (a b : Head) : a.same b = true ↔ Same a b := by
  constructor
  · intro h
    unfold same at h
    split at h
    case h_1 x y => exact .constF8 h
    case h_2 v w => exact .loadLocal ((Variable.same_iff v w).mp h)
    case h_3 v w => exact .loadLocalAddr ((Variable.same_iff v w).mp h)
    case h_4 v w => exact .storeLocal ((Variable.same_iff v w).mp h)
    case h_5 v w => exact .catchHandler ((Variable.same_iff v w).mp h)
    case h_6 hdouble _ _ _ _ =>
      obtain rfl := beq_iff_eq.mp h
      exact .other a fun x e => hdouble x x e e
  · intro h
    cases h with
    | constF8 h => exact h
    | loadLocal h | loadLocalAddr h | storeLocal h | catchHandler h =>
      exact (Variable.same_iff _ _).mpr h
    | other a h =>
      cases a with
      | constF8 x => exact absurd rfl (h x)
      | loadLocal v | loadLocalAddr v | storeLocal v | catchHandler v =>
        exact (Variable.same_iff v v).mpr rfl
      | _ => exact beq_iff_eq.mpr rfl

theorem Same.symm {a b : Head} (h : Same a b) : Same b a := by
  cases h with
  | constF8 h => exact .constF8 (Double.same_symm h)
  | loadLocal h => exact .loadLocal h.symm
  | loadLocalAddr h => exact .loadLocalAddr h.symm
  | storeLocal h => exact .storeLocal h.symm
  | catchHandler h => exact .catchHandler h.symm
  | other a h => exact .other a h

theorem Same.trans {a b c : Head} (h : Same a b) (h' : Same b c) : Same a c := by
  cases h with
  | other a _ => exact h'
  | constF8 h =>
    cases h' with
    | constF8 h' => exact .constF8 (Double.same_trans h h')
    | other _ _ => exact .constF8 h
  | loadLocal h =>
    cases h' with
    | loadLocal h' => exact .loadLocal (h.trans h')
    | other _ _ => exact .loadLocal h
  | loadLocalAddr h =>
    cases h' with
    | loadLocalAddr h' => exact .loadLocalAddr (h.trans h')
    | other _ _ => exact .loadLocalAddr h
  | storeLocal h =>
    cases h' with
    | storeLocal h' => exact .storeLocal (h.trans h')
    | other _ _ => exact .storeLocal h
  | catchHandler h =>
    cases h' with
    | catchHandler h' => exact .catchHandler (h.trans h')
    | other _ _ => exact .catchHandler h

theorem same_self_iff (a : Head) : a.same a = true ↔ ∀ x, a = .constF8 x → x.isNaN = false := by
  constructor
  · rintro h x rfl
    exact (Double.same_self_iff x).mp h
  · intro h
    by_cases hdouble : ∃ x, a = .constF8 x
    · obtain ⟨x, rfl⟩ := hdouble
      exact (Double.same_self_iff x).mpr (h x rfl)
    · exact (same_iff a a).mpr (.other a fun x e => hdouble ⟨x, e⟩)

end Head

namespace Inst

/-! ## trees -/

theorem same_symm {a b : Inst} (h : a.same b = true) : b.same a = true := by
  induction a using induct generalizing b with
  | step a ih =>
    obtain ⟨hhead, hchildren⟩ := (same_iff a b).mp h
    have hback : AllSame b.children a.children := by
      have hboth := (List.forall₂_and_left a.children b.children).mpr ⟨ih, hchildren⟩
      apply List.Forall₂.flip
      exact hboth.imp fun x y hxy => hxy.1 hxy.2
    have hhead' : b.head.same a.head = true :=
      (Head.same_iff _ _).mpr ((Head.same_iff _ _).mp hhead).symm
    exact (same_iff b a).mpr ⟨hhead', hback⟩

/-- The elements of the first list decide whether the relation goes on through the second one. -/
theorem forall₂_trans {α : Type} {R : α → α → Prop} {xs ys zs : List α}
    (hR : ∀ x ∈ xs, ∀ y z, R x y → R y z → R x z) (h : List.Forall₂ R xs ys)
    (h' : List.Forall₂ R ys zs) : List.Forall₂ R xs zs := by
  induction h generalizing zs with
  | nil =>
    cases h'
    exact .nil
  | @cons x y xs ys hxy _ ih =>
    cases h' with
    | cons hyz h' =>
      have hlater : ∀ x ∈ xs, ∀ y z, R x y → R y z → R x z :=
        fun x hx => hR x (List.mem_cons_of_mem _ hx)
      exact .cons (hR x List.mem_cons_self _ _ hxy hyz) (ih hlater h')

theorem same_trans {a b c : Inst} (h : a.same b = true) (h' : b.same c = true) :
    a.same c = true := by
  induction a using induct generalizing b c with
  | step a ih =>
    obtain ⟨hhead, hchildren⟩ := (same_iff a b).mp h
    obtain ⟨hhead', hchildren'⟩ := (same_iff b c).mp h'
    have htrans : ∀ x ∈ a.children, ∀ y z : Inst,
        x.same y = true → y.same z = true → x.same z = true :=
      fun x hx y z hxy hyz => ih x hx hxy hyz
    have hheads : a.head.same c.head = true :=
      (Head.same_iff _ _).mpr
        (((Head.same_iff _ _).mp hhead).trans ((Head.same_iff _ _).mp hhead'))
    exact (same_iff a c).mpr ⟨hheads, forall₂_trans htrans hchildren hchildren'⟩

/-- What is the same as anything is the same as itself. -/
theorem same_self_of_same {a b : Inst} (h : a.same b = true) : a.same a = true :=
  same_trans h (same_symm h)

/-! ## where reflexivity fails -/

/-- A constant that is not a number stands at some node of the tree. -/
def HoldsNaN (i : Inst) : Prop := ∃ p x, At i p (.constF8 x) ∧ x.isNaN = true

theorem holdsNaN_iff (i : Inst) : i.HoldsNaN ↔
    (∃ x, i = .constF8 x ∧ x.isNaN = true) ∨ ∃ c ∈ i.children, c.HoldsNaN := by
  constructor
  · rintro ⟨p, x, h, hx⟩
    cases h with
    | root => exact .inl ⟨x, rfl, hx⟩
    | field hc h => exact .inr ⟨_, mem_children_of_field hc, _, x, h, hx⟩
  · rintro (⟨x, rfl, hx⟩ | ⟨c, hc, p, x, h, hx⟩)
    · exact ⟨[], x, .root _, hx⟩
    · obtain ⟨s, hs⟩ := exists_field_of_child hc
      exact ⟨s :: p, x, .field hs h, hx⟩

theorem same_self_iff_children (i : Inst) : i.same i = true ↔
    i.head.same i.head = true ∧ ∀ c ∈ i.children, c.same c = true := by
  rw [same_iff, AllSame, List.forall₂_same]

theorem head_eq_constF8 {i : Inst} {x : Double} : i.head = .constF8 x ↔ i = .constF8 x := by
  constructor
  · intro h
    cases i <;> cases h
    rfl
  · rintro rfl
    rfl

/-- By induction on the tree: the head compares unequal to itself if it is a NaN, and a child if it
holds one. -/
theorem same_self_iff (i : Inst) : i.same i = true ↔ ¬ i.HoldsNaN := by
  induction i using induct with
  | step i ih =>
    have hhead : i.head.same i.head = true ↔ ¬ ∃ x, i = .constF8 x ∧ x.isNaN = true := by
      rw [Head.same_self_iff]
      constructor
      · rintro h ⟨x, e, hx⟩
        rw [h x (head_eq_constF8.mpr e)] at hx
        cases hx
      · intro h x e
        rw [Bool.eq_false_iff]
        exact fun hx => h ⟨x, head_eq_constF8.mp e, hx⟩
    have hchildren : (∀ c ∈ i.children, c.same c = true) ↔ ¬ ∃ c ∈ i.children, c.HoldsNaN := by
      constructor
      · rintro h ⟨c, hc, hnan⟩
        exact (ih c hc).mp (h c hc) hnan
      · intro h c hc
        exact (ih c hc).mpr fun hnan => h ⟨c, hc, hnan⟩
    rw [same_self_iff_children, holdsNaN_iff, hhead, hchildren, not_or]

theorem same_self_of_descend {path : List Nat} {c i : Inst} (h : descend path i = some c)
    (hi : i.same i = true) : c.same c = true := by
  induction path generalizing i with
  | nil =>
    obtain rfl := Option.some.inj h
    exact hi
  | cons n path ih =>
    obtain ⟨j, hj, hc⟩ := descend_cons h
    exact ih hc (((same_self_iff_children i).mp hi).2 j hj)

/-- **Sameness is an equivalence but for NaN.**  It is symmetric and transitive, and a tree is the
same as itself exactly if no constant in it, at whatever depth, is a NaN.  The same goes for each
instruction that a matcher captures, which is the same as itself if the instruction it is captured
in is.  A tree with a NaN anywhere below is the same as no tree, itself included. -/
theorem same_equivalence :
    (∀ a b : Inst, a.same b = true → b.same a = true) ∧
    (∀ a b c : Inst, a.same b = true → b.same c = true → a.same c = true) ∧
    (∀ a : Inst, a.same a = true ↔ ∀ p x, At a p (.constF8 x) → x.isNaN = false) ∧
    (∀ (m : Matcher) (a : Inst) (cs : List Capture), m.run a = some cs → ∀ c ∈ captured cs,
      (c.same c = true ↔ ∀ p x, At c p (.constF8 x) → x.isNaN = false) ∧
      (a.same a = true → c.same c = true)) ∧
    (∀ (a : Inst) (p : List Slot) (x : Double), At a p (.constF8 x) → x.isNaN = true →
      ∀ b : Inst, a.same b = false ∧ b.same a = false) := by
  have hself (a : Inst) :
      a.same a = true ↔ ∀ p x, At a p (.constF8 x) → x.isNaN = false := by
    rw [same_self_iff, HoldsNaN]
    simp only [not_exists, not_and, Bool.not_eq_true]
  refine ⟨fun a b => same_symm, fun a b c => same_trans, hself, fun m a cs hrun c hc => ?_,
    fun a p x hx hnan b => ?_⟩
  · refine ⟨hself c, fun ha => ?_⟩
    obtain ⟨path, -, hpath⟩ := Matcher.exists_path (Matcher.gives_of_run hrun) hc
    exact same_self_of_descend hpath ha
  · have ha : ¬ a.same a = true := fun h => (same_self_iff a).mp h ⟨p, x, hx, hnan⟩
    constructor
    · rw [Bool.eq_false_iff]
      exact fun h => ha (same_self_of_same h)
    · rw [Bool.eq_false_iff]
      exact fun h => ha (same_self_of_same (same_symm h))

/-- Stores of a call with two doubles.  With `0` and `-0`, an infinity and variables of one id, two
of them are the same both ways, and so is the call in one of them as itself; with a NaN for the
infinity a store is the same as neither of them. -/
theorem same_equivalence_nan :
    let v : Variable := ⟨⟨0⟩, .localSlot, 0, .f64, none⟩
    let w : Variable := ⟨⟨0⟩, .stackSlot, 3, .object, some "x"⟩
    let infinity : Double := ⟨0x7FF0000000000000⟩
    let nan : Double := ⟨0x7FF8000000000001⟩
    let call (x y : Double) : Inst := .call ⟨⟨0x06000001⟩⟩ [.constF8 x, .constF8 y]
    let a : Inst := .storeLocal v (call ⟨0⟩ infinity)
    let b : Inst := .storeLocal w (call ⟨0x8000000000000000⟩ infinity)
    let c : Inst := .storeLocal v (call ⟨0⟩ nan)
    a.same b = true ∧ b.same a = true ∧ a.same a = true ∧
    (Matcher.storedTo v).run a = some [.inst (call ⟨0⟩ infinity)] ∧
    (call ⟨0⟩ infinity).same (call ⟨0⟩ infinity) = true ∧
    At c [.value, .arg 1] (.constF8 nan) ∧ c.same c = false ∧ c.same a = false := by
  intro v w infinity nan call a b c
  obtain ⟨hsymm, htrans, -, hcaptured, hnan⟩ := same_equivalence
  have hab : a.same b = true := by decide
  have hba := hsymm a b hab
  have haa := htrans a b a hab hba
  have hrun : (Matcher.storedTo v).run a = some [.inst (call ⟨0⟩ infinity)] := rfl
  have hcall := (hcaptured _ a _ hrun _ List.mem_cons_self).2 haa
  have hargument : At (call ⟨0⟩ nan) [.arg 1] (.constF8 nan) :=
    .field (.tail _ (.head _)) (.root _)
  have hnode : At c [.value, .arg 1] (.constF8 nan) := .field (.head _) hargument
  have hc := hnan c _ nan hnode (by decide)
  exact ⟨hab, hba, haa, hrun, hcall, hnode, (hc c).1, (hc a).1⟩

end Inst

end ILTree
