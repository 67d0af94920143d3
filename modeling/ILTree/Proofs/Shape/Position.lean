import ILTree.Proofs.Shape.Peel
import ILTree.Proofs.Shape.Rules

/-!
# Where captured instructions stand

What a matcher captures are operands as they are, each at the end of a path of child positions.
The matcher decides the path, with the operation code of the root and, where it peels, with how many
conversions there are to peel.

* `Matcher.paths`          these paths;
* `captured_of_gives`      the captured instructions are at the ends of the paths, in order;
* `CapturedIn`             a recursion goes from an instruction to one captured in it;
* `captures_at_paths`      captured instructions are below, and no such recursion goes on for ever.
-/

namespace ILTree

/-- the instructions among the parts, in order -/
def captured (cs : List Capture) : List Inst := cs.filterMap Capture.inst?

namespace Matcher
open Inst (descend Below)

/-- where the instructions captured in `i` stand, in the order of the parts -/
def paths (i : Inst) : Matcher → List (List Nat)
  | storedTo _ | returned | leave | leaveTo _ | arrayLength _ | not | fieldAddress => [[0]]
  | ifElse => [[0], [1], [2]]
  | ifThen | and | comparison _ | binary | binaryOf _ => [[0], [1]]
  | or => [[0], [2]]
  | equals | notEquals => if i.opcode = .logicNot then [[0, 0], [0, 1]] else [[0], [1]]
  | fieldLoad => [[0, 0]]
  | fieldStore => [[0, 0], [1]]
  | staticFieldStore => [[1]]
  | peel k => [List.replicate (i.layers k) 0]
  | _ => []

variable {m : Matcher} {i : Inst} {cs : List Capture}

theorem captured_of_gives (h : Gives m i cs) :
    (captured cs).map some = (m.paths i).map fun path => descend path i := by
  cases h with
  | peel k i =>
    show [some (i.peel k)] = [descend (List.replicate (i.layers k) 0) i]
    rw [Inst.descend_peel]
  | _ => rfl

/-- Only peeling has a path that stays at the root, where there is nothing to peel. -/
theorem eq_peel_of_nil_mem_paths (h : [] ∈ m.paths i) : ∃ k, m = .peel k ∧ i.layers k = 0 := by
  cases m with
  | peel k =>
    have hlength := congrArg List.length (List.mem_singleton.mp h)
    rw [List.length_replicate] at hlength
    exact ⟨k, rfl, hlength.symm⟩
  | equals | notEquals =>
    rw [paths] at h
    split at h <;> simp at h
  | _ => simp [paths] at h

theorem exists_path (h : Gives m i cs) {c : Inst} (hc : c ∈ captured cs) :
    ∃ path ∈ m.paths i, descend path i = some c := by
  have hmem : some c ∈ (captured cs).map some := List.mem_map_of_mem hc
  rw [captured_of_gives h] at hmem
  exact List.mem_map.mp hmem

theorem below_or_peel (h : Gives m i cs) {c : Inst} (hc : c ∈ captured cs) :
    Below c i ∨ ∃ k, m = .peel k ∧ i.layers k = 0 ∧ c = i := by
  obtain ⟨path, hpath, hdescend⟩ := exists_path h hc
  by_cases hnil : path = []
  · subst hnil
    obtain ⟨k, hm, hk⟩ := eq_peel_of_nil_mem_paths hpath
    exact .inr ⟨k, hm, hk, (Option.some.inj hdescend).symm⟩
  · exact .inl ⟨path, hnil, hdescend⟩

/-- `c` is captured in `i`, and is not `i` itself again -/
def CapturedIn (c i : Inst) : Prop := ∃ m cs, run i m = some cs ∧ c ∈ captured cs ∧ c ≠ i

theorem CapturedIn.below {c i : Inst} (h : CapturedIn c i) : Below c i := by
  obtain ⟨m, cs, hrun, hc, hne⟩ := h
  rcases below_or_peel (gives_of_run hrun) hc with hbelow | ⟨_, _, _, heq⟩
  · exact hbelow
  · exact absurd heq hne

/-- **Captures are the operands themselves.**  Whatever matcher accepts an instruction, the
instructions that it captures are those at the ends of its paths, in this order.  They are below the
instruction, unless nothing could be peeled off, which leaves the instruction as it is.  So a
recursion on captured instructions ends. -/
theorem captures_at_paths :
    (∀ (m : Matcher) (i : Inst) (cs : List Capture), m.run i = some cs →
      (captured cs).map some = (m.paths i).map fun path => descend path i) ∧
    (∀ (m : Matcher) (i : Inst) (cs : List Capture), m.run i = some cs → ∀ c ∈ captured cs,
      Below c i ∨ ∃ k, m = .peel k ∧ i.layers k = 0 ∧ c = i) ∧
    WellFounded CapturedIn :=
  ⟨fun _ _ _ h => captured_of_gives (gives_of_run h),
    fun _ _ _ h _ hc => below_or_peel (gives_of_run h) hc,
    Subrelation.wf CapturedIn.below Inst.below_wellFounded⟩

/-- a store of a negation to a field of what is left of two conversions, and these two peeled off -/
theorem captures_at_paths_store :
    let x : Inst := .conv (.conv .constNull .nop .o false) .nop .i false
    let y : Inst := .logicNot (.constI4 1)
    let f : FieldRef := ⟨⟨0x04000001⟩⟩
    let i : Inst := .storeIndirect (.loadFieldAddr x f) y .i32
    run i .fieldStore = some [.inst x, .field f, .inst y] ∧
    [some x, some y] = [descend [0, 0] i, descend [1] i] ∧
    run x (.peel .nop) = some [.inst .constNull] ∧
    [some Inst.constNull] = [descend [0, 0] x] ∧ Below .constNull x := by
  intro x y f i
  have hstore : run i .fieldStore = some [.inst x, .field f, .inst y] := rfl
  have hpeel : run x (.peel .nop) = some [.inst .constNull] := rfl
  obtain ⟨hpaths, hbelow, -⟩ := captures_at_paths
  refine ⟨hstore, hpaths _ _ _ hstore, hpeel, hpaths _ _ _ hpeel, ?_⟩
  rcases hbelow _ _ _ hpeel .constNull List.mem_cons_self with h | ⟨_, _, _, h⟩
  · exact h
  · exact Inst.noConfusion h

end Matcher

end ILTree
