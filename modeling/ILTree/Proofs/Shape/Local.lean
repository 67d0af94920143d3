import ILTree.Proofs.Shape.Peel
import ILTree.Proofs.Shape.Similar

/-!
# Matching looks at two levels

What a matcher says of an instruction is decided by the heads of the root and of its children.  The
trees below, which it may pass on, have no say in it.

* `Capture.outline`      what is captured, with instructions left blank;
* `matching_is_local`    instructions with the same two levels are matched in the same way.
-/

namespace ILTree

/-- the capture, without saying which instruction it is if it is one -/
def Capture.outline : Capture → Capture
  | inst _ => inst .nop
  | c => c

theorem Capture.Rel.outline_eq {Q : Inst → Inst → Prop} {c d : Capture}
    (h : Capture.Rel Eq Q c d) : c.outline = d.outline := by
  cases h with
  | inst h => rfl
  | var h => rw [h]
  | _ => rfl

namespace Matcher

/-- Operands with one head do for all matchers, and what is below them does not matter. -/
theorem blind_head (m : Matcher) :
    m.Blind Eq (fun x y => x.head = y.head) (fun _ _ => True) (fun _ _ => True) where
  id_eq h := congrArg Variable.id h
  isThis_eq _ _ _ h := congrArg Variable.isThis h
  isReference_eq _ _ _ h := congrArg Variable.isReference h
  operand h := Inst.similar_of_head h fun _ _ _ => trivial
  captured _ := trivial
  below _ := trivial

theorem run_outline {m : Matcher} (hpeel : ∀ k, m ≠ .peel k) {i j : Inst} (h : i.head = j.head)
    (hc : i.children.map Inst.head = j.children.map Inst.head) :
    (m.run i).map (List.map Capture.outline) = (m.run j).map (List.map Capture.outline) := by
  have hheads : List.Forall₂ Eq (i.children.map Inst.head) (j.children.map Inst.head) := by
    rw [hc, List.forall₂_eq_eq_eq]
  have hchildren : List.Forall₂ (fun x y => x.head = y.head) i.children j.children :=
    List.forall₂_map_right_iff.mp (List.forall₂_map_left_iff.mp hheads)
  have hsimilar : Inst.Similar Eq (fun x y => x.head = y.head) i j :=
    Inst.similar_of_head h fun _ _ hxy => (List.forall₂_iff_zip.mp hchildren).2 hxy
  exact map_eq_of_rel (fun _ _ h => h.outline_eq) (run_similar m.blind_head hpeel hsimilar)

/-- **Matching looks at two levels.**  Take two instructions with one head, as many children, and
children that have one head each, over operands that have nothing to do with each other.  Every
matcher, with any arguments, accepts both or neither, and what it captures is the same but for the
instructions.  Only peeling looks further down; whether it takes anything off is decided by the root
alone. -/
theorem matching_is_local :
    (∀ i j : Inst, i.head = j.head → i.children.map Inst.head = j.children.map Inst.head →
      ∀ m : Matcher, (∀ k, m ≠ .peel k) →
        (m.run i).map (List.map Capture.outline) = (m.run j).map (List.map Capture.outline)) ∧
    (∀ i j : Inst, i.head = j.head → ∀ k, i.peel k = i ↔ j.peel k = j) := by
  refine ⟨fun i j h hc m hpeel => run_outline hpeel h hc, fun i j h k => ?_⟩
  rw [Inst.peel_eq_self_iff_head, Inst.peel_eq_self_iff_head, h]

/-- two stores to one field, of objects and values that differ below the second level -/
theorem matching_is_local_store :
    let f : FieldRef := ⟨⟨0x04000001⟩⟩
    let store (x y : Inst) : Inst :=
      .storeIndirect (.loadFieldAddr x f) (.call ⟨⟨0x06000001⟩⟩ [y]) .i32
    let i := store .constNull (.constI4 1)
    let j := store (.conv .nop .nop .i false) .nop
    i.head = j.head ∧ i.children.map Inst.head = j.children.map Inst.head ∧
    (run i .fieldStore).map (List.map Capture.outline) = some [.inst .nop, .field f, .inst .nop] ∧
    (run j .fieldStore).map (List.map Capture.outline) =
      (run i .fieldStore).map (List.map Capture.outline) ∧
    (i.peel .nop = i ↔ j.peel .nop = j) := by
  intro f store i j
  obtain ⟨hmatch, hroot⟩ := matching_is_local
  have hi : (run i .fieldStore).map (List.map Capture.outline) =
      some [.inst .nop, .field f, .inst .nop] := rfl
  exact ⟨rfl, rfl, hi, (hmatch i j rfl rfl .fieldStore (fun _ => Matcher.noConfusion)).symm,
    hroot i j rfl .nop⟩

end Matcher

end ILTree
