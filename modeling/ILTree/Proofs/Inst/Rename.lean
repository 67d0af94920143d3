import Mathlib.Data.List.Basic
import ILTree.Inst.Same
import ILTree.Proofs.Inst.Similar
import ILTree.Proofs.Scope.Relabel

/-!
# Trees under other names

* `Inst.rename ρ`     the tree with the name `ρ v` for each variable `v` in it, and all else as it is;
* `Inst.unnamed`      the tree without names;
* `vars_rename`       all variables are renamed, wherever they stand;
* `same_rename`       sameness of trees does not depend on names;
* `similar_rename`    an instruction looks like itself under other names.
-/

namespace ILTree

def Variable.rename (ρ : Variable → Option String) (v : Variable) : Variable :=
  { v with name := ρ v }

theorem Variable.same_rename (ρ σ : Variable → Option String) (v w : Variable) :
    (v.rename ρ).same (w.rename σ) = v.same w := rfl

def Head.rename (ρ : Variable → Option String) : Head → Head
  | loadLocal v => loadLocal (v.rename ρ)
  | loadLocalAddr v => loadLocalAddr (v.rename ρ)
  | storeLocal v => storeLocal (v.rename ρ)
  | catchHandler v => catchHandler (v.rename ρ)
  | h => h

theorem Head.var?_rename (ρ : Variable → Option String) (h : Head) :
    (h.rename ρ).var? = h.var?.map (Variable.rename ρ) := by
  cases h <;> rfl

theorem Head.same_rename (ρ σ : Variable → Option String) (a b : Head) :
    (a.rename ρ).same (b.rename σ) = a.same b := by
  cases a <;> cases b <;> rfl

namespace Inst

section
variable (ρ σ : Variable → Option String)

mutual

/-- the tree with other names for its variables -/
def rename : Inst → Inst
  | loadLocal v => loadLocal (v.rename ρ)
  | loadLocalAddr v => loadLocalAddr (v.rename ρ)
  | storeLocal v x => storeLocal (v.rename ρ) x.rename
  | arrayLength t x => arrayLength t x.rename
  | leave c x => leave c x.rename
  | ifElse c x y => ifElse c.rename x.rename y.rename
  | logicNot x => logicNot x.rename
  | compare k s l r => compare k s l.rename r.rename
  | catchHandler v f b => catchHandler (v.rename ρ) f.rename b.rename
  | loadIndirect x t => loadIndirect x.rename t
  | storeIndirect a x t => storeIndirect a.rename x.rename t
  | loadFieldAddr x f => loadFieldAddr x.rename f
  | loadElementAddr a is t => loadElementAddr a.rename (renameAll is) t
  | binaryNumeric op l r ovf s => binaryNumeric op l.rename r.rename ovf s
  | conv x k t ovf => conv x.rename k t ovf
  | call m args => call m (renameAll args)
  | throw x => throw x.rename
  | i => i

def renameAll : List Inst → List Inst
  | [] => []
  | i :: is => i.rename :: renameAll is

end

theorem renameAll_eq (is : List Inst) : renameAll ρ is = is.map (rename ρ) := by
  induction is with
  | nil => rfl
  | cons i is ih => rw [renameAll, ih, List.map_cons]

theorem head_rename (i : Inst) : (i.rename ρ).head = i.head.rename ρ := by
  cases i <;> rfl

theorem children_rename (i : Inst) : (i.rename ρ).children = i.children.map (rename ρ) := by
  cases i <;> simp only [rename, children, renameAll_eq, List.map_cons, List.map_nil]

theorem preorder_rename (i : Inst) : (i.rename ρ).preorder = i.preorder.map (rename ρ) := by
  induction i using induct with
  | step i ih =>
    have hbelow : (i.children.map (rename ρ)).flatMap preorder =
        (i.children.flatMap preorder).map (rename ρ) := by
      rw [List.flatMap_map, List.map_flatMap]
      exact List.flatMap_congr ih
    rw [preorder_eq, preorder_eq, children_rename, hbelow, List.map_cons]

/-- No variable is left out. -/
theorem vars_rename (i : Inst) : (i.rename ρ).vars = i.vars.map (Variable.rename ρ) := by
  rw [vars, vars, preorder_rename, List.filterMap_map, List.map_filterMap]
  congr 1
  funext j
  show (j.rename ρ).head.var? = _
  rw [head_rename, Head.var?_rename]

/-- Instructions may be compared under other names, if their children may. -/
theorem agree_rename {is : List Inst}
    (h : ∀ i ∈ is, ∀ j, (i.rename ρ).same (j.rename σ) = i.same j) (js : List Inst) :
    agree ((is.map (rename ρ)).map same) (js.map (rename σ)) = agree (is.map same) js := by
  induction is generalizing js with
  | nil => cases js <;> rfl
  | cons i is ih =>
    cases js with
    | nil => rfl
    | cons j js =>
      rw [List.forall_mem_cons] at h
      simp only [List.map_cons, agree, h.1 j, ih h.2 js]

/-- By induction on the tree: heads compare variables by their ids. -/
theorem same_rename (i j : Inst) : (i.rename ρ).same (j.rename σ) = i.same j := by
  induction i using induct generalizing j with
  | step i ih =>
    rw [same_eq, same_eq, head_rename, head_rename, Head.same_rename, children_rename,
      children_rename, agree_rename ρ σ ih]

theorem similar_rename (i : Inst) :
    Similar (fun v w => w = v.rename ρ) (fun x y => y = x.rename ρ) i (i.rename ρ) := by
  cases i <;> simp only [rename] <;> constructor <;> rfl

end

/-- the tree without names -/
def unnamed : Inst → Inst := rename fun _ => none

end Inst

end ILTree
