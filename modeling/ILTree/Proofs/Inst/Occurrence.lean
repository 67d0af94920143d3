import ILTree.Inst.Children

/-!
# What occurs in a tree

* `Inst.vars`           the variables in a tree, from left to right;
* `Inst.targets`        the containers that its leaves go out of;
* `preorder_of_child`   what is below a child is below the instruction.
-/

namespace ILTree

/-- the variable that a head carries -/
def Head.var? : Head → Option Variable
  | loadLocal v | loadLocalAddr v | storeLocal v | catchHandler v => some v
  | _ => none

/-- the container that a head carries -/
def Head.target? : Head → Option Container
  | leave c => some c
  | _ => none

namespace Inst

def vars (i : Inst) : List Variable := i.preorder.filterMap fun j => j.head.var?

def targets (i : Inst) : List Container := i.preorder.filterMap fun j => j.head.target?

theorem self_mem_preorder (i : Inst) : i ∈ i.preorder := by
  rw [preorder_eq]
  exact List.mem_cons_self

theorem preorder_of_child {i c j : Inst} (hc : c ∈ i.children) (hj : j ∈ c.preorder) :
    j ∈ i.preorder := by
  rw [preorder_eq]
  exact List.mem_cons_of_mem _ (List.mem_flatMap.mpr ⟨c, hc, hj⟩)

theorem mem_vars {i : Inst} {v : Variable} :
    v ∈ i.vars ↔ ∃ j ∈ i.preorder, j.head.var? = some v := List.mem_filterMap

theorem mem_vars_of_head {i : Inst} {v : Variable} (h : i.head.var? = some v) : v ∈ i.vars :=
  mem_vars.mpr ⟨i, self_mem_preorder i, h⟩

theorem vars_of_child {i c : Inst} {v : Variable} (hc : c ∈ i.children) (hv : v ∈ c.vars) :
    v ∈ i.vars := by
  obtain ⟨j, hj, hh⟩ := mem_vars.mp hv
  exact mem_vars.mpr ⟨j, preorder_of_child hc hj, hh⟩

theorem mem_targets {i : Inst} {c : Container} :
    c ∈ i.targets ↔ ∃ j ∈ i.preorder, j.head.target? = some c := List.mem_filterMap

theorem mem_targets_of_head {i : Inst} {c : Container} (h : i.head.target? = some c) :
    c ∈ i.targets := mem_targets.mpr ⟨i, self_mem_preorder i, h⟩

theorem targets_of_child {i c : Inst} {d : Container} (hc : c ∈ i.children)
    (hd : d ∈ c.targets) : d ∈ i.targets := by
  obtain ⟨j, hj, hh⟩ := mem_targets.mp hd
  exact mem_targets.mpr ⟨j, preorder_of_child hc hj, hh⟩

end Inst

end ILTree
