import ILTree.Proofs.Inst.Rename
import ILTree.Proofs.Shape.Similar

/-!
# Names are for display

Nothing that looks at trees looks at the names of their variables, and nothing that hands out
variables looks at the names it is asked for.

* `Matcher.rename`, `Capture.rename`   other names for what a matcher is given and gives;
* `run_rename`           a matcher says the same of a tree under other names;
* `peel_rename`          layers come off as they do under the old names;
* `names_are_display`    trees, matchers and scopes without names.
-/

namespace ILTree

/-- the matcher, asking for the same variable under another name -/
def Matcher.rename (σ : Variable → Option String) : Matcher → Matcher
  | isLoadOf v => isLoadOf (v.rename σ)
  | isAddressOf v => isAddressOf (v.rename σ)
  | isReferenceTo v => isReferenceTo (v.rename σ)
  | storedTo v => storedTo (v.rename σ)
  | m => m

def Capture.rename (ρ : Variable → Option String) : Capture → Capture
  | inst i => inst (i.rename ρ)
  | var v => var (v.rename ρ)
  | c => c

def Capture.unnamed : Capture → Capture := rename fun _ => none

section
variable (ρ σ : Variable → Option String)

theorem Capture.Rel.eq_rename {c d : Capture}
    (h : Capture.Rel (fun v w => w = v.rename ρ) (fun i j => j = i.rename ρ) c d) :
    d = c.rename ρ := by
  cases h with
  | inst h => rw [h, Capture.rename]
  | var h => rw [h, Capture.rename]
  | _ => rfl

namespace Matcher

/-- Names are not among what matchers ask about. -/
theorem blind_rename (m : Matcher) :
    m.Blind (fun v w => w = v.rename ρ) (fun i j => j = i.rename ρ) (fun i j => j = i.rename ρ)
      (fun i j => j = i.rename ρ) where
  id_eq h := by rw [h, Variable.rename]
  isThis_eq _ _ _ h := by rw [h]; rfl
  isReference_eq _ _ _ h := by rw [h]; rfl
  operand h := h ▸ Inst.similar_rename ρ _
  captured h := h
  below h := h

theorem run_rename_argument (m : Matcher) (i : Inst) : (m.rename σ).run i = m.run i := by
  cases m <;> rfl

end Matcher

theorem Inst.peel_rename (i : Inst) (k : Conversion) :
    (i.rename ρ).peel k = (i.peel k).rename ρ :=
  peel_similar (V := fun v w => w = v.rename ρ) (R := fun i j => j = i.rename ρ)
    (fun h => h ▸ similar_rename ρ _) k rfl

namespace Matcher

theorem run_rename (m : Matcher) (i : Inst) :
    m.run (i.rename ρ) = (m.run i).map (List.map (Capture.rename ρ)) := by
  have h := map_eq_of_rel (f := Capture.rename ρ) (g := id) (fun _ _ hc => hc.eq_rename.symm)
    (run_similar_deep (m.blind_rename ρ) (a := i) rfl)
  rw [h, List.map_id_fun, Option.map_id_fun]
  rfl

end Matcher

end

/-! ## one tree under two sets of names -/

section
variable {i j : Inst} (h : i.unnamed = j.unnamed)
include h

theorem run_unnamed_eq (m : Matcher) :
    (m.run i).map (List.map Capture.unnamed) = (m.run j).map (List.map Capture.unnamed) := by
  have hi := m.run_rename (fun _ => none) i
  have hj := m.run_rename (fun _ => none) j
  rw [Capture.unnamed, ← hi, ← hj]
  exact congrArg m.run h

theorem peel_unnamed_eq (k : Conversion) : (i.peel k).unnamed = (j.peel k).unnamed := by
  rw [Inst.unnamed, ← Inst.peel_rename, ← Inst.peel_rename]
  exact congrArg (Inst.peel k) h

theorem same_unnamed_eq {x y : Inst} (hxy : x.unnamed = y.unnamed) : i.same x = j.same y := by
  have hnone (a b : Inst) : a.unnamed.same b.unnamed = a.same b := Inst.same_rename _ _ a b
  rw [← hnone i x, h, hxy, hnone]

end

/-- **Names are for display.**  Give all variables of a tree, and those a matcher is given, any
other names, or none.  The matcher accepts what it accepted before and captures the same under the
new names; peeling takes off the same layers; and trees compare as before.  The new name may also
be another one in each place where the variable occurs: trees that are one tree without names are
treated as one.  A scope that is asked for locals without names instead of named ones gives the
same answers without the names, and ends in the same state without them. -/
theorem names_are_display :
    (∀ (ρ : Variable → Option String) (i : Inst),
      (i.rename ρ).vars = i.vars.map (Variable.rename ρ)) ∧
    (∀ (ρ σ : Variable → Option String) (i : Inst) (m : Matcher),
      (m.rename σ).run (i.rename ρ) = (m.run i).map (List.map (Capture.rename ρ))) ∧
    (∀ (ρ : Variable → Option String) (i : Inst) k, (i.rename ρ).peel k = (i.peel k).rename ρ) ∧
    (∀ (ρ σ : Variable → Option String) (i j : Inst),
      (i.rename ρ).same (j.rename σ) = i.same j) ∧
    (∀ i j : Inst, i.unnamed = j.unnamed →
      (∀ (σ : Variable → Option String) (m : Matcher),
        ((m.rename σ).run j).map (List.map Capture.unnamed) =
          (m.run i).map (List.map Capture.unnamed)) ∧
      (∀ k, (j.peel k).unnamed = (i.peel k).unnamed) ∧
      ∀ x y : Inst, x.unnamed = y.unnamed → j.same y = i.same x) ∧
    ∀ rs : List Request,
      Scope.new.run (rs.map Request.unnamed) =
        ((Scope.new.run rs).1.map Answer.unnamed, (Scope.new.run rs).2.unnamed) ∧
      (Scope.new.run (rs.map Request.unnamed)).2.parameters =
        (Scope.new.run rs).2.parameters.map Variable.unnamed := by
  refine ⟨Inst.vars_rename, fun ρ σ i m => ?_, fun ρ i k => Inst.peel_rename ρ i k, Inst.same_rename,
    fun i j h => ⟨fun σ m => ?_, fun k => (peel_unnamed_eq h k).symm,
      fun x y hxy => (same_unnamed_eq h hxy).symm⟩, fun rs => ?_⟩
  · rw [Matcher.run_rename_argument, Matcher.run_rename]
  · rw [Matcher.run_rename_argument, run_unnamed_eq h]
  · have hrun : Scope.new.run (rs.map Request.unnamed) =
        ((Scope.new.run rs).1.map Answer.unnamed, (Scope.new.run rs).2.unnamed) :=
      Scope.run_unnamed Scope.new rs
    rw [hrun]
    exact ⟨rfl, Scope.parameters_unnamed _⟩

/-- a local that is added to itself, under one name where it is stored and others where it is
loaded -/
theorem names_are_display_places :
    let v (name : Option String) : Variable := ⟨⟨0⟩, .localSlot, 0, .i32, name⟩
    let sum (l r : Inst) : Inst := .binaryNumeric .add l r false .none
    let i : Inst := .storeLocal (v none) (sum (.loadLocal (v none)) (.loadLocal (v none)))
    let j : Inst :=
      .storeLocal (v (some "x")) (sum (.loadLocal (v (some "y"))) (.loadLocal (v none)))
    let rs : List Request := [.newNamedLocal .i32 "x", .newLocal .i32]
    i.unnamed = j.unnamed ∧
    (Matcher.run j .stored).map (List.map Capture.unnamed) = some [.var (v none)] ∧
    j.same j = i.same i ∧
    (Scope.new.run (rs.map Request.unnamed)).1 = (Scope.new.run rs).1.map Answer.unnamed := by
  intro v sum i j rs
  have h : i.unnamed = j.unnamed := rfl
  obtain ⟨-, -, -, -, hplaces, hruns⟩ := names_are_display
  obtain ⟨hmatch, -, hsame⟩ := hplaces i j h
  have hi : (Matcher.run i .stored).map (List.map Capture.unnamed) = some [.var (v none)] := rfl
  exact ⟨h, (hmatch (fun _ => none) .stored).trans hi, hsame i j h, congrArg Prod.fst (hruns rs).1⟩

end ILTree
