import ILTree.Proofs.Inst.Alike
import ILTree.Proofs.Inst.Occurrence
import ILTree.Proofs.Scope.Receiver
import ILTree.Proofs.Shape.Inverse

/-!
# Shapes that look into the variable

Most shapes compare variables by id.  Loads of the receiver and targets of member accesses are told
by what else a variable carries, so what they say is right for variables of one scope.

* `receiver_recognised`   a load of the receiver of a scope is recognised, and nothing else;
* `Target v i`            both forms take `i` for `v` as the target of a member access;
* `target_unique`         the two forms agree, and a variable is the target in one way only, which
                          its stack type tells.
-/

namespace ILTree

/-- A type is known to hold references exactly if its values are references on the stack. -/
theorem Ty.isReference_iff (t : Ty) : t.isReference = some true ↔ t.stackType = .o := by
  cases t <;> simp [isReference, stackType]

namespace Inst

/-! ## the receiver -/

theorem same_loadLocal (v : Variable) : (loadLocal v).same (loadLocal v) = true :=
  (same_iff _ _).mpr ⟨(Variable.same_iff v v).mpr rfl, .nil⟩

/-- **The receiver is recognised exactly.**  Take the instructions whose variables are in the scope
that a run leads to.  One is recognised as a load of the receiver exactly if it loads the variable
that a declaration of the receiver handed out.  There is one such variable at most, and one if a
request asked for a receiver.  So nothing is recognised in a scope without a receiver, any two
instructions that are recognised are the same, and what another request handed out is not taken for
the receiver.  Of the variables without a name, the receiver and no other prints as `this`. -/
theorem receiver_recognised (rs : List Request) :
    let s := (Scope.new.run rs).2
    (∀ i : Inst, (∀ v ∈ i.vars, v ∈ s.table) →
      (i.isLoadOfThis = true ↔ ∃ n v, Scope.ReceiverAt rs n v ∧ i = loadLocal v)) ∧
    (∀ n m v w, Scope.ReceiverAt rs n v → Scope.ReceiverAt rs m w → n = m ∧ v = w) ∧
    ((∃ n v, Scope.ReceiverAt rs n v) ↔ ∃ ty, .declareThis ty ∈ rs) ∧
    ((∀ ty, .declareThis ty ∉ rs) → ∀ i : Inst, (∀ v ∈ i.vars, v ∈ s.table) →
      i.isLoadOfThis = false) ∧
    (∀ i j : Inst, (∀ v ∈ i.vars, v ∈ s.table) → (∀ v ∈ j.vars, v ∈ s.table) →
      i.isLoadOfThis = true → j.isLoadOfThis = true → i.same j = true) ∧
    (∀ (n : Nat) (r : Request) (a : Answer) (v : Variable), rs[n]? = some r →
      (Scope.new.run rs).1[n]? = some a → r.handsOut a = some v → (∀ ty, r ≠ .declareThis ty) →
      (loadLocal v).isLoadOfThis = false) ∧
    (∀ v ∈ s.table, v.name = none → (v.text = "this" ↔ ∃ n, Scope.ReceiverAt rs n v)) ∧
    (∀ n v, Scope.ReceiverAt rs n v → v ∈ s.table ∧ v.name = none) := by
  intro s
  have hrecognised (i : Inst) (hi : ∀ v ∈ i.vars, v ∈ s.table) :
      i.isLoadOfThis = true ↔ ∃ n v, Scope.ReceiverAt rs n v ∧ i = loadLocal v := by
    rw [isLoadOfThis_iff]
    constructor
    · rintro ⟨v, rfl, h⟩
      obtain ⟨n, hn⟩ := (Scope.isThis_iff (hi v (mem_vars_of_head rfl))).mp h
      exact ⟨n, v, hn, rfl⟩
    · rintro ⟨n, v, hn, rfl⟩
      exact ⟨v, rfl, (Scope.isThis_iff hn.mem_table.1).mpr ⟨n, hn⟩⟩
  refine ⟨hrecognised, fun n m v w hn hm => hn.unique hm, Scope.exists_receiverAt,
    fun hnone i hi => ?_, fun i j hi hj h h' => ?_, fun n r a v hr ha hv hother => ?_,
    fun v hv hname => ?_, fun n v hn => hn.mem_table⟩
  · rw [Bool.eq_false_iff, Ne, hrecognised i hi]
    rintro ⟨n, v, hn, -⟩
    obtain ⟨ty, h⟩ := Scope.exists_receiverAt.mp ⟨n, v, hn⟩
    exact hnone ty h
  · obtain ⟨n, v, hn, rfl⟩ := (hrecognised i hi).mp h
    obtain ⟨m, w, hm, rfl⟩ := (hrecognised j hj).mp h'
    obtain ⟨-, rfl⟩ := hn.unique hm
    exact same_loadLocal v
  · rw [Scope.run_getElem? hr] at ha
    rw [← Option.some.inj ha] at hv
    rw [Bool.eq_false_iff]
    intro h
    obtain ⟨ty, e⟩ := (Scope.declares_of_handsOut hv).isThis_iff.mp h
    exact hother ty e
  · rw [Variable.text_eq_this_iff hname, Scope.isThis_iff hv]

/-- the second of two declarations of the receiver is refused, and a parameter stands before it -/
theorem receiver_recognised_refused :
    let rs : List Request :=
      [.declareParameter 0 .object, .declareThis .object, .newLocal .object, .declareThis .string]
    let v : Variable := ⟨⟨1⟩, .parameter, -1, .object, none⟩
    let w : Variable := ⟨⟨0⟩, .parameter, 0, .object, none⟩
    Scope.ReceiverAt rs 1 v ∧ (loadLocal v).isLoadOfThis = true ∧
    (loadLocal w).isLoadOfThis = false ∧ v.text = "this" := by
  intro rs v w
  have hv : Scope.ReceiverAt rs 1 v := ⟨.object, rfl, by decide⟩
  obtain ⟨hload, -, -, -, -, hother, htext, htable⟩ := receiver_recognised rs
  refine ⟨hv, ?_, ?_, ?_⟩
  · exact (hload _ (by decide)).mpr ⟨1, v, hv, rfl⟩
  · exact hother 0 (.declareParameter 0 .object) (.var w) w rfl (by decide) rfl
      fun ty e => Request.noConfusion e
  · exact (htext v (htable 1 v hv).1 rfl).mpr ⟨1, hv⟩

/-! ## targets of member accesses -/

section
variable {s : Scope} (hs : s.Positional) {v : Variable} (hv : v ∈ s.table) {i : Inst}
  (hi : ∀ u, i = loadLocal u ∨ i = loadLocalAddr u → u ∈ s.table)
include hs hv hi

/-- with one id, the variable in the instruction has the type of `v` too -/
theorem eq_of_named {u : Variable} (hu : i = loadLocal u ∨ i = loadLocalAddr u)
    (h : u.same v = true) : u = v :=
  hs.eq_of_id (hi u hu) hv ((Variable.same_iff u v).mp h)

/-- Asked about a variable of the scope, the test says of an instruction that names such a variable
what the pattern says. -/
theorem isReferenceTo_iff_referenced? :
    i.isReferenceTo v = true ↔ ∃ u, i.referenced? = some u ∧ u.same v = true := by
  rw [isReferenceTo_iff]
  constructor
  · rintro (⟨hr, u, e, h⟩ | ⟨hr, u, e, h⟩)
    · obtain rfl := eq_of_named hs hv hi (.inl e) h
      exact ⟨u, referenced?_eq_some.mpr (.inl ⟨e, hr⟩), h⟩
    · obtain rfl := eq_of_named hs hv hi (.inr e) h
      exact ⟨u, referenced?_eq_some.mpr (.inr ⟨e, hr⟩), h⟩
  · rintro ⟨u, hu, h⟩
    rcases referenced?_eq_some.mp hu with ⟨e, hr⟩ | ⟨e, hr⟩
    · obtain rfl := eq_of_named hs hv hi (.inl e) h
      exact .inl ⟨hr, u, e, h⟩
    · obtain rfl := eq_of_named hs hv hi (.inr e) h
      exact .inr ⟨hr, u, e, h⟩

theorem eq_of_isReferenceTo (h : i.isReferenceTo v = true) :
    i = loadLocal v ∨ i = loadLocalAddr v := by
  rcases isReferenceTo_iff.mp h with ⟨-, u, e, h⟩ | ⟨-, u, e, h⟩
  · obtain rfl := eq_of_named hs hv hi (.inl e) h
    exact .inl e
  · obtain rfl := eq_of_named hs hv hi (.inr e) h
    exact .inr e

end

/-- Both forms take the instruction for `v` as the target of a member access. -/
def Target (v : Variable) (i : Inst) : Prop :=
  i.isReferenceTo v = true ∧ ∃ u, i.referenced? = some u ∧ u.same v = true

theorem target_loadLocal (v : Variable) : Target v (loadLocal v) ↔ v.ty.stackType = .o := by
  rw [← Ty.isReference_iff]
  constructor
  · rintro ⟨h, -⟩
    rcases isReferenceTo_iff.mp h with ⟨hr, -⟩ | ⟨-, u, e, -⟩
    · exact hr
    · cases e
  · intro hr
    have hv : v.same v = true := (Variable.same_iff v v).mpr rfl
    exact ⟨isReferenceTo_iff.mpr (.inl ⟨hr, v, rfl, hv⟩),
      v, referenced?_eq_some.mpr (.inl ⟨rfl, hr⟩), hv⟩

theorem target_loadLocalAddr (v : Variable) :
    Target v (loadLocalAddr v) ↔ v.ty.stackType ≠ .o := by
  rw [Ne, ← Ty.isReference_iff]
  constructor
  · rintro ⟨h, -⟩
    rcases isReferenceTo_iff.mp h with ⟨-, u, e, -⟩ | ⟨hr, -⟩
    · cases e
    · exact hr
  · intro hr
    have hv : v.same v = true := (Variable.same_iff v v).mpr rfl
    exact ⟨isReferenceTo_iff.mpr (.inr ⟨hr, v, rfl, hv⟩),
      v, referenced?_eq_some.mpr (.inr ⟨rfl, hr⟩), hv⟩

/-- **The two forms agree on the target of a member access.**  Take a variable `v` of the scope that
a run leads to.  Of the instructions that name a variable of this scope, where they load one or take
its address, the test for `v` accepts the same as the pattern, if what the pattern gives is `v`.
They accept one of the load of `v` and its address, the load exactly if values of the type of `v`
are references on the stack, and no other instruction. -/
theorem target_unique {rs : List Request} {v : Variable} (hv : v ∈ (Scope.new.run rs).2.table) :
    (∀ i : Inst, (∀ u, i = loadLocal u ∨ i = loadLocalAddr u → u ∈ (Scope.new.run rs).2.table) →
      ((i.isReferenceTo v = true ↔ ∃ u, i.referenced? = some u ∧ u.same v = true) ∧
      (i.isReferenceTo v = true → i = loadLocal v ∨ i = loadLocalAddr v))) ∧
    (Target v (loadLocalAddr v) ↔ ¬ Target v (loadLocal v)) ∧
    (Target v (loadLocal v) ↔ v.ty.stackType = .o) := by
  have hs := Scope.positional_run rs
  refine ⟨fun i hi => ⟨isReferenceTo_iff_referenced? hs hv hi, eq_of_isReferenceTo hs hv hi⟩, ?_,
    target_loadLocal v⟩
  rw [target_loadLocal, target_loadLocalAddr]

/-- an array is loaded, and a value of unknown kind is accessed through its address -/
theorem target_unique_unknown :
    let rs : List Request := [.newLocal (.array .i32 2), .newStackSlot (.genericParam 0)]
    let v : Variable := ⟨⟨0⟩, .localSlot, 0, .array .i32 2, none⟩
    let w : Variable := ⟨⟨1⟩, .stackSlot, 0, .genericParam 0, none⟩
    v ∈ (Scope.new.run rs).2.table ∧ w ∈ (Scope.new.run rs).2.table ∧
    Target v (loadLocal v) ∧ Target w (loadLocalAddr w) ∧
    ¬ (loadLocal w).isReferenceTo v = true := by
  intro rs v w
  have hv : v ∈ (Scope.new.run rs).2.table := by decide
  have hw : w ∈ (Scope.new.run rs).2.table := by decide
  obtain ⟨hforms, -, hload⟩ := target_unique hv
  obtain ⟨-, haddress, hload'⟩ := target_unique hw
  refine ⟨hv, hw, hload.mpr rfl, haddress.mpr (mt hload'.mp (by decide)), fun h => ?_⟩
  have hnamed : ∀ u, loadLocal w = loadLocal u ∨ loadLocal w = loadLocalAddr u →
      u ∈ (Scope.new.run rs).2.table := by
    rintro u (e | e)
    · obtain rfl := Inst.loadLocal.inj e
      exact hw
    · cases e
  rcases (hforms _ hnamed).2 h with e | e
  · exact absurd (Inst.loadLocal.inj e) (by decide)
  · cases e

end Inst

end ILTree
