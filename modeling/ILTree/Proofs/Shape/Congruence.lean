import ILTree.Proofs.Inst.Alike
import ILTree.Proofs.Scope.Table
import ILTree.Proofs.Shape.Similar

/-!
# Shapes do not tell apart what compares as the same

Matchers treat in the same way what looks alike, and trees that are the same look alike at every
depth.  Only a load of the receiver and the target of a member access look at more of a variable
than its id; within one scope the id determines the rest.

* `Capture.Same`      captured parts that are the same: instructions as trees, variables by id,
                      everything else equal;
* `SameParts`         both matches fail, or both give parts that are the same in order;
* `run_alike`         every matcher but those two, with any arguments;
* `run_alike_table`   all matchers, for the variables of one table;
* `same_congruence`   sameness is a congruence for everything that looks at trees.
-/

namespace ILTree

inductive Capture.Same : Capture → Capture → Prop where
  | inst {i j : Inst} (h : i.same j = true) : Same (.inst i) (.inst j)
  | var {v w : Variable} (h : v.same w = true) : Same (.var v) (.var w)
  | field (f : FieldRef) : Same (.field f) (.field f)
  | block (b : Block) : Same (.block b) (.block b)
  | container (c : Container) : Same (.container c) (.container c)
  | operator (op : BinaryOperator) : Same (.operator op) (.operator op)
  | int (n : Int) : Same (.int n) (.int n)
  | string (s : String) : Same (.string s) (.string s)

/-- no parts in both, or the same parts in the same order -/
def SameParts : Option (List Capture) → Option (List Capture) → Prop :=
  Option.Rel (List.Forall₂ Capture.Same)

/-- A matcher that asks for no more than `V` and `R` tell, where `R` tells that trees are the
same. -/
theorem sameParts_of_blind {m : Matcher} {V : Variable → Variable → Prop}
    {R : Inst → Inst → Prop} (hm : m.Blind V R R R) (hR : ∀ x y, R x y → x.same y = true)
    {a b : Inst} (h : R a b) : SameParts (m.run a) (m.run b) := by
  have hsame (c d : Capture) (hcd : Capture.Rel V R c d) : Capture.Same c d := by
    cases hcd with
    | inst h => exact .inst (hR _ _ h)
    | var h => exact .var ((Variable.same_iff _ _).mpr (hm.id_eq h))
    | field f => exact .field f
    | block b => exact .block b
    | container c => exact .container c
    | operator op => exact .operator op
    | int n => exact .int n
    | string s => exact .string s
  have hrel := Matcher.run_similar_deep hm h
  generalize m.run a = x, m.run b = y at hrel ⊢
  cases hrel with
  | none => exact .none
  | some hcs => exact .some (hcs.imp hsame)

theorem Inst.peel_same (k : Conversion) {a b : Inst} (h : a.same b = true) :
    (a.peel k).same (b.peel k) = true :=
  peel_similar (R := IsSame) similar_of_same k h

theorem run_alike {a b : Inst} (h : a.same b = true) (m : Matcher) (hthis : m ≠ .isLoadOfThis)
    (href : m ≠ .referenced) : SameParts (m.run a) (m.run b) := by
  have hm : m.Blind (fun v w => v.same w = true) Inst.IsSame Inst.IsSame Inst.IsSame :=
    { id_eq := fun hv => (Variable.same_iff _ _).mp hv
      isThis_eq := fun e => absurd e hthis
      isReference_eq := fun e => absurd e href
      operand := Inst.similar_of_same
      captured := id
      below := id }
  exact sameParts_of_blind hm (fun _ _ hxy => hxy) h

/-! ## variables of one table -/

/-- trees that are the same, and have all their variables from the table -/
structure Scope.SameIn (s : Scope) (x y : Inst) : Prop where
  same : x.same y = true
  left : ∀ v ∈ x.vars, v ∈ s.table
  right : ∀ v ∈ y.vars, v ∈ s.table

/-- In one table the id tells the variable. -/
theorem Scope.SameIn.similar {s : Scope} (hs : s.Positional) {x y : Inst} (h : s.SameIn x y) :
    Inst.Similar Eq s.SameIn x y := by
  refine (Inst.similar_of_same h.same).imp (fun v w hv hw e => ?_) (fun c hc d hd e => ?_)
  · exact hs.eq_of_id (h.left v (Inst.mem_vars_of_head hv)) (h.right w (Inst.mem_vars_of_head hw))
      ((Variable.same_iff v w).mp e)
  · exact ⟨e, fun v hv => h.left v (Inst.vars_of_child hc hv),
      fun v hv => h.right v (Inst.vars_of_child hd hv)⟩

/-- With all variables from one table, the two matchers left out above are no exception. -/
theorem run_alike_table {s : Scope} (hs : s.Positional) {a b : Inst} (h : a.same b = true)
    (ha : ∀ v ∈ a.vars, v ∈ s.table) (hb : ∀ v ∈ b.vars, v ∈ s.table) (m : Matcher) :
    SameParts (m.run a) (m.run b) := by
  have hm : m.Blind Eq s.SameIn s.SameIn s.SameIn :=
    { id_eq := congrArg Variable.id
      isThis_eq := fun _ _ _ e => congrArg Variable.isThis e
      isReference_eq := fun _ _ _ e => congrArg Variable.isReference e
      operand := Scope.SameIn.similar hs
      captured := id
      below := id }
  exact sameParts_of_blind hm (fun _ _ hxy => hxy.same) ⟨h, ha, hb⟩

/-- **Sameness is a congruence for all that looks at trees.**  Instructions that compare as the
same have one opcode and children that are the same one by one; all matchers but those of the
receiver and of the target of a member access agree on them with any arguments, and so does the
peeling of conversions.  If all their variables come from the table that some run leads to, those
two matchers agree as well. -/
theorem same_congruence {a b : Inst} (h : a.same b = true) :
    a.opcode = b.opcode ∧
    a.children.length = b.children.length ∧
    List.Forall₂ (fun x y => x.same y = true) a.children b.children ∧
    (∀ m : Matcher, m ≠ .isLoadOfThis → m ≠ .referenced → SameParts (m.run a) (m.run b)) ∧
    (∀ k, (a.peel k).same (b.peel k) = true) ∧
    (∀ rs : List Request,
      (∀ v ∈ a.vars, v ∈ (Scope.new.run rs).2.table) →
      (∀ v ∈ b.vars, v ∈ (Scope.new.run rs).2.table) →
      ∀ m : Matcher, SameParts (m.run a) (m.run b)) := by
  obtain ⟨hh, hc⟩ := (Inst.same_iff a b).mp h
  refine ⟨Head.opcode_of_same hh, hc.length_eq, hc, run_alike h, fun k => Inst.peel_same k h, ?_⟩
  intro rs ha hb
  exact run_alike_table (Scope.positional_run rs) h ha hb

/-- stores of `0` and of `-0` to a local, the load of the receiver, and that of a local that holds
a reference, with the variables of one scope -/
theorem same_congruence_zeros :
    let rs : List Request := [.declareThis .object, .newLocal .f64, .newLocal .string]
    let v : Variable := ⟨⟨1⟩, .localSlot, 0, .f64, none⟩
    let a : Inst := .storeLocal v (.constF8 ⟨0⟩)
    let b : Inst := .storeLocal v (.constF8 ⟨0x8000000000000000⟩)
    let u : Variable := ⟨⟨2⟩, .localSlot, 1, .string, none⟩
    let receiver : Inst := .loadLocal ⟨⟨0⟩, .parameter, -1, .object, none⟩
    let text : Inst := .loadLocal u
    a.same b = true ∧ (∀ w ∈ a.vars, w ∈ (Scope.new.run rs).2.table) ∧
    (∀ w ∈ b.vars, w ∈ (Scope.new.run rs).2.table) ∧
    SameParts (Matcher.run a (.storedTo v)) (Matcher.run b (.storedTo v)) ∧
    SameParts (Matcher.run a .referenced) (Matcher.run b .referenced) ∧
    (∀ x ∈ [receiver, text], x.same x = true ∧ ∀ w ∈ x.vars, w ∈ (Scope.new.run rs).2.table) ∧
    Matcher.run receiver .isLoadOfThis = some [] ∧
    SameParts (Matcher.run receiver .isLoadOfThis) (Matcher.run receiver .isLoadOfThis) ∧
    Matcher.run text .referenced = some [.var u] ∧
    SameParts (Matcher.run text .referenced) (Matcher.run text .referenced) := by
  intro rs v a b u receiver text
  have h : a.same b = true := by decide
  have ha : ∀ w ∈ a.vars, w ∈ (Scope.new.run rs).2.table := by decide
  have hb : ∀ w ∈ b.vars, w ∈ (Scope.new.run rs).2.table := by decide
  have hc := same_congruence h
  have hloads : ∀ x ∈ [receiver, text], x.same x = true ∧
      ∀ w ∈ x.vars, w ∈ (Scope.new.run rs).2.table := by decide
  obtain ⟨hreceiver, hvreceiver⟩ := hloads receiver List.mem_cons_self
  obtain ⟨htext, hvtext⟩ := hloads text (List.mem_cons_of_mem _ List.mem_cons_self)
  exact ⟨h, ha, hb, hc.2.2.2.1 (.storedTo v) (by decide) (by decide),
    hc.2.2.2.2.2 rs ha hb .referenced, hloads,
    rfl, (same_congruence hreceiver).2.2.2.2.2 rs hvreceiver hvreceiver .isLoadOfThis,
    rfl, (same_congruence htext).2.2.2.2.2 rs hvtext hvtext .referenced⟩

end ILTree
