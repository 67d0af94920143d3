import ILTree.Inst.Children
import ILTree.Inst.Text
import ILTree.Proofs.Text.Types

/-!
# What the text of an instruction leaves out

* `Inst.erase`        the tree without the signs of comparisons, and with collapsed types where
                      memory is accessed;
* `Inst.text_erase`   the text is that of the tree so reduced.
-/

namespace ILTree.Inst

mutual

/-- the tree with all that its text does not show put to one value -/
def erase : Inst → Inst
  | storeLocal v x => storeLocal v x.erase
  | arrayLength t x => arrayLength t x.erase
  | leave c x => leave c x.erase
  | ifElse c x y => ifElse c.erase x.erase y.erase
  | logicNot x => logicNot x.erase
  | compare k _ l r => compare k .none l.erase r.erase
  | catchHandler v f b => catchHandler v f.erase b.erase
  | loadIndirect x t => loadIndirect x.erase t.collapse
  | storeIndirect a x t => storeIndirect a.erase x.erase t.collapse
  | loadFieldAddr x f => loadFieldAddr x.erase f
  | loadElementAddr a is t => loadElementAddr a.erase (eraseAll is) t.collapse
  | binaryNumeric op l r ovf s => binaryNumeric op l.erase r.erase ovf s
  | conv x k t ovf => conv x.erase k t ovf
  | call m args => call m (eraseAll args)
  | throw x => throw x.erase
  | i => i

def eraseAll : List Inst → List Inst
  | [] => []
  | i :: is => i.erase :: eraseAll is

end

theorem eraseAll_eq (is : List Inst) : eraseAll is = is.map erase := by
  induction is with
  | nil => rfl
  | cons i is ih => rw [eraseAll, ih, List.map_cons]

theorem unlessNop_of_ne {i : Inst} (h : i ≠ nop) (s : String) : unlessNop i s = s := by
  cases i <;> first | rfl | exact absurd rfl h

theorem unlessNop_erase (i : Inst) (s : String) : unlessNop i.erase s = unlessNop i s := by
  cases i <;> simp only [erase, unlessNop]

/-- The text does not show what is erased. -/
theorem text_erase (i : Inst) : i.erase.text = i.text := by
  induction i using induct with
  | step i ih =>
    cases i with
    | loadElementAddr a is t =>
      have his : is.map (fun i => i.erase.text) = is.map text :=
        List.map_congr_left fun c hc => ih c (List.mem_cons_of_mem _ hc)
      simp only [erase, text, eraseAll_eq, textAll_eq, List.map_map, Function.comp_def, his,
        ih a List.mem_cons_self, Ty.text_collapse]
    | call m args =>
      have hargs : args.map (fun i => i.erase.text) = args.map text :=
        List.map_congr_left fun c hc => ih c hc
      simp only [erase, text, eraseAll_eq, textAll_eq, List.map_map, Function.comp_def, hargs]
    | _ =>
      simp only [children, List.forall_mem_cons] at ih
      simp only [erase, text, unlessNop_erase, Ty.text_collapse, ih]

end ILTree.Inst
