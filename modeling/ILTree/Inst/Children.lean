import ILTree.Inst.Head

/-!
# Operands, and what is below an instruction

* `Inst.children`   the operands in the order in which they stand, absent ones (`nop`) included;
* `Inst.fold`       computes from an instruction and the results for its children, bottom up
                    (`Inst.fold_eq`);
* `Inst.preorder`   the instruction and all below it, each before its children, left to right;
* `Inst.size`       how many these are;
* `Inst.descend`    the instruction at the end of a path of child positions.
-/

namespace ILTree.Inst

/-! ## children -/

def children : Inst → List Inst
  | nop | constI4 _ | constI8 _ | constF8 _ | constNull | constString _ | loadLocal _
  | loadLocalAddr _ | branch _ | loadStaticFieldAddr _ => []
  | storeLocal _ x | arrayLength _ x | leave _ x | logicNot x | loadIndirect x _
  | loadFieldAddr x _ | conv x _ _ _ | throw x => [x]
  | compare _ _ l r | binaryNumeric _ l r _ _ => [l, r]
  | catchHandler _ f b => [f, b]
  | storeIndirect a x _ => [a, x]
  | ifElse c t f => [c, t, f]
  | loadElementAddr a is _ => a :: is
  | call _ args => args

/-! ## bottom up -/

section
variable {α : Type}

mutual

/-- what `f` makes of the instruction and the results for its children -/
def fold (f : Inst → List α → α) : Inst → α
  | nop => f nop []
  | constI4 n => f (constI4 n) []
  | constI8 n => f (constI8 n) []
  | constF8 x => f (constF8 x) []
  | constNull => f constNull []
  | constString s => f (constString s) []
  | loadLocal v => f (loadLocal v) []
  | loadLocalAddr v => f (loadLocalAddr v) []
  | storeLocal v x => f (storeLocal v x) [fold f x]
  | arrayLength t x => f (arrayLength t x) [fold f x]
  | leave c x => f (leave c x) [fold f x]
  | branch b => f (branch b) []
  | ifElse c x y => f (ifElse c x y) [fold f c, fold f x, fold f y]
  | logicNot x => f (logicNot x) [fold f x]
  | compare k s l r => f (compare k s l r) [fold f l, fold f r]
  | catchHandler v g b => f (catchHandler v g b) [fold f g, fold f b]
  | loadIndirect x t => f (loadIndirect x t) [fold f x]
  | storeIndirect a x t => f (storeIndirect a x t) [fold f a, fold f x]
  | loadFieldAddr x r => f (loadFieldAddr x r) [fold f x]
  | loadStaticFieldAddr r => f (loadStaticFieldAddr r) []
  | loadElementAddr a is t => f (loadElementAddr a is t) (fold f a :: foldAll f is)
  | binaryNumeric op l r ovf s => f (binaryNumeric op l r ovf s) [fold f l, fold f r]
  | conv x k t ovf => f (conv x k t ovf) [fold f x]
  | call m args => f (call m args) (foldAll f args)
  | throw x => f (throw x) [fold f x]

def foldAll (f : Inst → List α → α) : List Inst → List α
  | [] => []
  | i :: is => fold f i :: foldAll f is

end

theorem foldAll_eq (f : Inst → List α → α) (is : List Inst) :
    foldAll f is = is.map (fold f) := by
  induction is with
  | nil => rfl
  | cons i is ih => rw [foldAll, ih, List.map_cons]

theorem fold_eq (f : Inst → List α → α) (i : Inst) :
    i.fold f = f i (i.children.map (fold f)) := by
  cases i <;> simp only [fold, foldAll_eq, children, List.map_cons, List.map_nil]

end

mutual

/-- What holds of an instruction whenever it holds of its children holds of all. -/
theorem induct {P : Inst → Prop} (step : ∀ i, (∀ c ∈ i.children, P c) → P i) (i : Inst) :
    P i := by
  apply step
  cases i with
  | loadElementAddr a is t =>
    simp only [children, List.forall_mem_cons]
    exact ⟨induct step a, inductAll step is⟩
  | call m args => exact inductAll step args
  | storeLocal v x => simpa [children] using induct step x
  | arrayLength t x => simpa [children] using induct step x
  | leave c x => simpa [children] using induct step x
  | ifElse c x y => simpa [children] using ⟨induct step c, induct step x, induct step y⟩
  | logicNot x => simpa [children] using induct step x
  | compare k s l r => simpa [children] using ⟨induct step l, induct step r⟩
  | catchHandler v g b => simpa [children] using ⟨induct step g, induct step b⟩
  | loadIndirect x t => simpa [children] using induct step x
  | storeIndirect a x t => simpa [children] using ⟨induct step a, induct step x⟩
  | loadFieldAddr x r => simpa [children] using induct step x
  | binaryNumeric op l r ovf s => simpa [children] using ⟨induct step l, induct step r⟩
  | conv x k t ovf => simpa [children] using induct step x
  | throw x => simpa [children] using induct step x
  | _ => simp [children]

theorem inductAll {P : Inst → Prop} (step : ∀ i, (∀ c ∈ i.children, P c) → P i)
    (is : List Inst) : ∀ c ∈ is, P c := by
  cases is with
  | nil => simp
  | cons i is => simpa using ⟨induct step i, inductAll step is⟩

end

/-! ## everything below -/

def preorder : Inst → List Inst := fold fun i below => i :: below.flatten

theorem preorder_eq (i : Inst) : i.preorder = i :: i.children.flatMap preorder := by
  rw [preorder, fold_eq, ← preorder, List.flatMap]

/-- the number of instructions in the tree -/
def size : Inst → Nat := fold fun _ below => below.foldr (· + ·) 1

theorem size_eq (i : Inst) : i.size = (i.children.map size).foldr (· + ·) 1 := by
  rw [size, fold_eq, ← size]

/-- follows child positions from the first on -/
def descend : List Nat → Inst → Option Inst
  | [], i => some i
  | n :: path, i => (i.children[n]?).bind (descend path)

end ILTree.Inst
