import Mathlib.Data.List.Forall2
import Mathlib.Logic.ExistsUnique
import ILTree.Proofs.Inst.Alike
import ILTree.Proofs.Inst.Descent
import ILTree.Proofs.Inst.Field

/-!
# Walks through a tree

A node of a tree is named by the fields that lead to it from the root.  This does not speak of
children, so it can be asked whether a walk from children to children comes to every node.

* `At i p j`            the fields `p`, each below the one before it, lead from `i` to `j`;
* `Inst.nodes`          the nodes of a tree in preorder;
* `nodes_preorder`      the walk visits what is at these nodes, one by one;
* `address q i`         the fields that a path of child positions goes through;
* `existsUnique_path`   one such path goes to each node;
* `children_exact`      children leave no operand out and list none twice.
-/

namespace ILTree.Inst

/-! ## nodes -/

inductive At : Inst → List Slot → Inst → Prop where
  | root (i : Inst) : At i [] i
  | field {i c j : Inst} {s : Slot} {p : List Slot} (hc : (s, c) ∈ i.fields) (h : At c p j) :
      At i (s :: p) j

/-- each node before the ones below it, and those in the order of the fields -/
def nodes : Inst → List (List Slot) :=
  fold fun i below =>
    [] :: ((i.fields.map Prod.fst).zip below).flatMap fun (s, ps) => ps.map (s :: ·)

theorem nodes_eq (i : Inst) :
    i.nodes = [] :: i.fields.flatMap fun (s, c) => c.nodes.map (s :: ·) := by
  rw [nodes, fold_eq, ← nodes, children_eq_fields, List.map_map, List.zip_map', List.flatMap_map]
  rfl

section
variable {i j c : Inst} {s : Slot} {p : List Slot}

theorem mem_children_of_field (h : (s, c) ∈ i.fields) : c ∈ i.children := by
  rw [children_eq_fields]
  exact List.mem_map_of_mem (f := Prod.snd) h

theorem exists_field_of_child (h : c ∈ i.children) : ∃ s, (s, c) ∈ i.fields := by
  rw [children_eq_fields] at h
  obtain ⟨⟨s, d⟩, hd, rfl⟩ := List.mem_map.mp h
  exact ⟨s, hd⟩

/-- By induction on the tree: a node is the root, or a node of what one of the fields holds. -/
theorem mem_nodes : p ∈ i.nodes ↔ ∃ j, At i p j := by
  induction i using induct generalizing p with
  | step i ih =>
    rw [nodes_eq, List.mem_cons, List.mem_flatMap]
    constructor
    · rintro (rfl | ⟨⟨s, c⟩, hc, hp⟩)
      · exact ⟨i, .root i⟩
      · obtain ⟨q, hq, rfl⟩ := List.mem_map.mp hp
        obtain ⟨j, hj⟩ := (ih c (mem_children_of_field hc)).mp hq
        exact ⟨j, .field hc hj⟩
    · rintro ⟨j, h⟩
      cases h with
      | root => exact .inl rfl
      | @field _ c _ s q hc h =>
        have hq : q ∈ c.nodes := (ih c (mem_children_of_field hc)).mpr ⟨j, h⟩
        exact .inr ⟨(s, c), hc, List.mem_map_of_mem hq⟩

/-- Nodes below different fields begin with different fields. -/
theorem nodup_nodes (i : Inst) : i.nodes.Nodup := by
  induction i using induct with
  | step i ih =>
    rw [nodes_eq, List.nodup_cons, List.nodup_flatMap]
    refine ⟨?_, fun (s, c) hc => ?_, ?_⟩
    · simp
    · exact (ih c (mem_children_of_field hc)).map List.cons_injective
    · refine (List.pairwise_map.mp (nodup_slots i)).imp ?_
      rintro ⟨s, c⟩ ⟨t, d⟩ hne p hp hp'
      obtain ⟨q, -, rfl⟩ := List.mem_map.mp hp
      obtain ⟨r, -, e⟩ := List.mem_map.mp hp'
      exact hne (List.cons.inj e).1.symm

/-! ## the walk -/

theorem forall₂_flatMap {α β γ : Type} {R : β → γ → Prop} {f : α → List β} {g : α → List γ}
    {l : List α} (h : ∀ x ∈ l, List.Forall₂ R (f x) (g x)) :
    List.Forall₂ R (l.flatMap f) (l.flatMap g) := by
  induction l with
  | nil => exact .nil
  | cons x l ih =>
    have hl := ih fun y hy => h y (List.mem_cons_of_mem x hy)
    exact List.rel_append (h x List.mem_cons_self) hl

theorem nodes_preorder (i : Inst) : List.Forall₂ (At i) i.nodes i.preorder := by
  induction i using induct with
  | step i ih =>
    rw [nodes_eq, preorder_eq, children_eq_fields, List.flatMap_map]
    refine .cons (.root i) (forall₂_flatMap fun (s, c) hc => ?_)
    show List.Forall₂ (At i) (c.nodes.map (s :: ·)) c.preorder
    rw [List.forall₂_map_left_iff]
    exact (ih c (mem_children_of_field hc)).imp fun p j h => .field hc h

theorem child_wellFounded : WellFounded fun c i : Inst => c ∈ i.children :=
  Subrelation.wf size_lt_of_child (measure size).wf

/-- A walk that goes on to the children of each instruction ends, so the rule for it determines what
it visits. -/
theorem walk_unique {W : Inst → List Inst} :
    (∀ i, W i = i :: i.children.flatMap W) ↔ W = preorder := by
  constructor
  · intro hW
    funext i
    induction i using child_wellFounded.induction with
    | _ i ih => rw [hW, preorder_eq, List.flatMap_congr ih]
  · rintro rfl i
    exact preorder_eq i

theorem length_flatMap_add_one {α β : Type} (f : α → List β) (l : List α) :
    (l.flatMap f).length + 1 = (l.map fun x => (f x).length).foldr (· + ·) 1 := by
  induction l with
  | nil => rfl
  | cons x l ih =>
    rw [List.map_cons, List.foldr_cons, ← ih, List.flatMap_cons, List.length_append]
    omega

theorem length_preorder (i : Inst) : i.preorder.length = i.size := by
  induction i using induct with
  | step i ih =>
    have hchildren : i.children.map (fun c => c.preorder.length) = i.children.map size :=
      List.map_congr_left ih
    rw [preorder_eq, size_eq, List.length_cons, length_flatMap_add_one, hchildren]

/-! ## paths of child positions -/

def address : List Nat → Inst → Option (List Slot)
  | [], _ => some []
  | n :: q, i => (i.fields[n]?).bind fun (s, c) => (address q c).map (s :: ·)

theorem address_cons_eq_some {n : Nat} {q : List Nat} :
    address (n :: q) i = some p ↔
      ∃ s c p', i.fields[n]? = some (s, c) ∧ address q c = some p' ∧ p = s :: p' := by
  simp only [address, Option.bind_eq_some_iff, Option.map_eq_some_iff, Prod.exists]
  constructor
  · rintro ⟨s, c, hn, p', hp, rfl⟩
    exact ⟨s, c, p', hn, hp, rfl⟩
  · rintro ⟨s, c, p', hn, hp, rfl⟩
    exact ⟨s, c, hn, p', hp, rfl⟩

theorem descend_cons_of_field {n : Nat} {q : List Nat} (h : i.fields[n]? = some (s, c)) :
    descend (n :: q) i = descend q c := by
  have hn : i.children[n]? = some c := by rw [children_eq_fields, List.getElem?_map, h]; rfl
  show (i.children[n]?).bind (descend q) = descend q c
  rw [hn, Option.bind_some]

/-- A field stands in one place only. -/
theorem position_unique {m n : Nat} {d : Inst} (hm : i.fields[m]? = some (s, c))
    (hn : i.fields[n]? = some (s, d)) : m = n := by
  have hslot {k : Nat} {x : Inst} (h : i.fields[k]? = some (s, x)) :
      (i.fields.map Prod.fst)[k]? = some s := by rw [List.getElem?_map, h]; rfl
  obtain ⟨hlt, -⟩ := List.getElem?_eq_some_iff.mp (hslot hm)
  exact (List.getElem?_inj hlt (nodup_slots i)).mp ((hslot hm).trans (hslot hn).symm)

theorem address_inj {q q' : List Nat} (h : address q i = some p) (h' : address q' i = some p) :
    q = q' := by
  induction q generalizing i p q' with
  | nil =>
    obtain rfl := Option.some.inj h
    cases q' with
    | nil => rfl
    | cons n q' =>
      obtain ⟨s, c, p', -, -, e⟩ := address_cons_eq_some.mp h'
      cases e
  | cons m q ih =>
    obtain ⟨s, c, r, hm, hr, rfl⟩ := address_cons_eq_some.mp h
    cases q' with
    | nil => cases h'
    | cons n q' =>
      obtain ⟨t, d, r', hn, hr', e⟩ := address_cons_eq_some.mp h'
      obtain ⟨rfl, rfl⟩ := List.cons.inj e
      obtain rfl := position_unique hm hn
      rw [hm] at hn
      obtain ⟨-, rfl⟩ := Prod.mk.inj (Option.some.inj hn)
      rw [ih hr hr']

/-- By induction on the way to the node: the field at each step is that of one child. -/
theorem At.exists_path (h : At i p j) : ∃ q, address q i = some p ∧ descend q i = some j := by
  induction h with
  | root i => exact ⟨[], rfl, rfl⟩
  | @field i c j s p hc _ ih =>
    obtain ⟨q, hq, hj⟩ := ih
    obtain ⟨n, hn⟩ := List.getElem?_of_mem hc
    refine ⟨n :: q, address_cons_eq_some.mpr ⟨s, c, p, hn, hq, rfl⟩, ?_⟩
    rw [descend_cons_of_field hn]
    exact hj

theorem existsUnique_path (h : At i p j) :
    ∃! q, address q i = some p ∧ descend q i = some j := by
  obtain ⟨q, hq⟩ := h.exists_path
  exact ⟨q, hq, fun q' hq' => address_inj hq'.1 hq.1⟩

theorem exists_node {q : List Nat} (h : descend q i = some j) :
    ∃ p, address q i = some p ∧ At i p j := by
  induction q generalizing i with
  | nil =>
    obtain rfl := Option.some.inj h
    exact ⟨[], rfl, .root i⟩
  | cons n q ih =>
    obtain ⟨c, hc, -⟩ := Option.bind_eq_some_iff.mp h
    rw [children_eq_fields, List.getElem?_map] at hc
    obtain ⟨⟨s, c⟩, hn, -⟩ := Option.map_eq_some_iff.mp hc
    rw [descend_cons_of_field hn] at h
    obtain ⟨p, hp, hj⟩ := ih h
    exact ⟨s :: p, address_cons_eq_some.mpr ⟨s, c, p, hn, hp, rfl⟩,
      .field (List.mem_of_getElem? hn) hj⟩

end

/-- **Children are exactly the operands.**  They are the contents of the fields that hold operands,
in the order of declaration, and no field comes twice.  An instruction is determined by its head
and its children, and also which instructions it is the same as.  A walk that visits an instruction
and then its children in turn ends on every tree, and is given by this rule.  It visits what is at
the nodes of the tree, each once, and so as many instructions as there are nodes.  One path of
child positions goes to each node, and no path goes anywhere else. -/
theorem children_exact (i : Inst) :
    (i.children = i.fields.map Prod.snd ∧ (i.fields.map Prod.fst).Nodup) ∧
    (∀ j : Inst, i.head = j.head → i.children = j.children → i = j) ∧
    (∀ j : Inst, i.head.same j.head = true → AllSame i.children j.children → i.same j = true) ∧
    WellFounded (fun c i : Inst => c ∈ i.children) ∧
    (∀ W : Inst → List Inst, (∀ i, W i = i :: i.children.flatMap W) ↔ W = preorder) ∧
    (i.nodes.Nodup ∧ (∀ p, p ∈ i.nodes ↔ ∃ j, At i p j) ∧
      List.Forall₂ (At i) i.nodes i.preorder ∧ i.preorder.length = i.nodes.length ∧
      i.preorder.length = i.size) ∧
    (∀ p j, At i p j → ∃! q, address q i = some p ∧ descend q i = some j) ∧
    (∀ q j, descend q i = some j → ∃ p, address q i = some p ∧ At i p j) :=
  ⟨⟨children_eq_fields i, nodup_slots i⟩, fun _ => eq_of_head_of_children,
    fun j hh hc => (same_iff i j).mpr ⟨hh, hc⟩, child_wellFounded, fun _ => walk_unique,
    ⟨nodup_nodes i, fun _ => mem_nodes, nodes_preorder i, (nodes_preorder i).length_eq.symm,
      length_preorder i⟩,
    fun _ _ => existsUnique_path, fun _ _ => exists_node⟩

/-- A handler without a filter around an element address with two zeros for indices.  The operands
that look alike are at nodes of their own, and with a negative zero among them the handler is the
same but not equal. -/
theorem children_exact_elements :
    let e : Inst := .constF8 ⟨0⟩
    let z : Inst := .constF8 ⟨0x8000000000000000⟩
    let v : Variable := ⟨⟨0⟩, .exceptionSlot, 0, .object, none⟩
    let b : Inst := .loadElementAddr .nop [e, e] .f64
    let c : Inst := .loadElementAddr .nop [e, z] .f64
    let i : Inst := .catchHandler v .nop b
    let j : Inst := .catchHandler v .nop c
    i = .catchAll v b ∧ i.same j = true ∧ i.children ≠ j.children ∧
    i.preorder.length = 6 ∧ i.nodes.length = 6 ∧
    (∃! q, address q i = some [.body, .index 0] ∧ descend q i = some e) ∧
    (∃! q, address q i = some [.body, .index 1] ∧ descend q i = some e) ∧
    ∃ p, address [1, 2] i = some p ∧ At i p e := by
  intro e z v b c i j
  obtain ⟨-, hequal, hsame, -, -, ⟨-, -, -, hlength, hsize⟩, hpath, hnode⟩ := children_exact i
  obtain ⟨-, -, hsame', -⟩ := children_exact b
  have hzero : e.same z = true := by decide
  have hbody : b.same c = true := hsame' c rfl (.cons rfl (.cons rfl (.cons hzero .nil)))
  have hfield {n : Nat} (h : (.index n, e) ∈ b.fields) : At i [.body, .index n] e :=
    .field (.tail _ (.head _)) (.field h (.root e))
  refine ⟨hequal _ rfl rfl, hsame j (beq_self_eq_true v) (.cons rfl (.cons hbody .nil)), ?_, hsize,
    hlength.symm.trans hsize, hpath _ _ (hfield (.tail _ (.head _))),
    hpath _ _ (hfield (.tail _ (.tail _ (.head _)))), hnode [1, 2] e rfl⟩
  intro h
  have hbodies : b = c := (List.cons.inj (List.cons.inj h).2).1
  have hindices : [e, e] = [e, z] := (Inst.loadElementAddr.inj hbodies).2.1
  have hlast : e = z := (List.cons.inj (List.cons.inj hindices).2).1
  have hbits : (0 : UInt64) = 0x8000000000000000 := Double.mk.inj (Inst.constF8.inj hlast)
  exact absurd hbits (by decide)

end ILTree.Inst
