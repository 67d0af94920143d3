import ILTree.Proofs.Scope.Handles
import ILTree.Proofs.Shape.Inverse

/-!
# Branches and leaves within one scope

A branch names its block and a leave its container by value.  For the handles of one scope this is
as good as naming the request that they come from.

* `handles_told_apart`   handles are told apart by where they come from, and so are the branches and
                         leaves that name them.
-/

namespace ILTree.Inst
open Scope (BlockAt ContainerAt Origin)

theorem isVoidLeaveTo_leave_iff {c d : Container} {x : Inst} :
    (leave c x).isVoidLeaveTo d = true ↔ c = d ∧ x = nop := by
  rw [isVoidLeaveTo_iff, leaveVoid, leave.injEq]

theorem isBranchTo_branch_iff {b d : Block} : (branch b).isBranchTo d = true ↔ b = d := by
  rw [isBranchTo_iff, branch.injEq]

/-- **Handles are told apart by where they come from.**  Take a run that asks for no more blocks and
containers than their counters can number, and for anything else.  Each request for a block or a
container is given one.  Two blocks are equal exactly if one request gave both, and then a branch to
the one is a branch to the other.  Two containers, the body of the function among them, are equal
exactly if they come from one place, or have one number, and then a leave of the one, with any
value, is a leave of the other.  A leave of one of these containers returns exactly if it goes out
of the body, or of a container that was asked for as a function; no other instruction does. -/
theorem handles_told_apart {rs : List Request} (hblocks : drawn .blocks rs ≤ 4294967295)
    (hcontainers : drawn .containers rs ≤ 4294967294) :
    (∀ n, (∃ b, BlockAt rs n b) ↔ rs[n]? = some .newBlock) ∧
    (∀ n m b d, BlockAt rs n b → BlockAt rs m d →
      (b = d ↔ n = m) ∧ ((branch b).isBranchTo d = true ↔ n = m)) ∧
    (∀ n, (∃ c, ContainerAt rs (.request n) c) ↔ ∃ kind, rs[n]? = some (.newContainer kind)) ∧
    (∀ o p c d, ContainerAt rs o c → ContainerAt rs p d →
      (c = d ↔ o = p) ∧ (c = d ↔ c.id = d.id) ∧
      ∀ x, (leave c x).leaveTo? d = (if o = p then some x else none) ∧
        ((leave c x).isVoidLeaveTo d = true ↔ o = p ∧ x = nop)) ∧
    (∀ i x, (∀ c y, i = leave c y → ∃ o, ContainerAt rs o c) →
      (i.returned? = some x ↔ ∃ o c, ContainerAt rs o c ∧ o.IsFunction rs ∧ i = leave c x)) := by
  have hroom : Scope.new.Room .blocks rs := by
    have hstart : Scope.new.next .blocks = 0 := rfl
    rw [Scope.Room, hstart, Counter.top]
    omega
  have hroom' : Scope.new.Room .containers rs := by
    have hstart : Scope.new.next .containers = 1 := rfl
    rw [Scope.Room, hstart, Counter.top]
    omega
  refine ⟨fun n => Scope.exists_blockAt, fun n m b d hb hd => ?_,
    fun n => Scope.exists_containerAt, fun o p c d hc hd => ?_, fun i x hi => ?_⟩
  · have heq := Scope.block_eq_iff hroom hb hd
    exact ⟨heq, isBranchTo_branch_iff.trans heq⟩
  · have heq := Scope.container_eq_iff hroom' hc hd
    refine ⟨heq, heq.trans (Scope.container_id_iff hroom' hc hd).symm, fun x => ⟨?_, ?_⟩⟩
    · show (if c = d then some x else none) = _
      exact if_congr heq rfl rfl
    · rw [isVoidLeaveTo_leave_iff, heq]
  · rw [returned?_eq_some]
    constructor
    · rintro ⟨c, hbody, rfl⟩
      obtain ⟨o, ho⟩ := hi c x rfl
      exact ⟨o, c, ho, ho.isFunctionBody_iff.mp hbody, rfl⟩
    · rintro ⟨o, c, ho, hfunction, rfl⟩
      exact ⟨c, ho.isFunctionBody_iff.mpr hfunction, rfl⟩

/-- two blocks, a loop and the body of a nested function, with a local between them -/
theorem handles_told_apart_nested :
    let rs : List Request :=
      [.newBlock, .newContainer .loop, .newLocal .i32, .newBlock, .newContainer .function]
    let c : Container := ⟨1, .loop⟩
    let d : Container := ⟨2, .function⟩
    drawn .blocks rs ≤ 4294967295 ∧ drawn .containers rs ≤ 4294967294 ∧
    BlockAt rs 0 ⟨0⟩ ∧ BlockAt rs 3 ⟨1⟩ ∧ ¬ (branch ⟨0⟩).isBranchTo ⟨1⟩ = true ∧
    ContainerAt rs .body ⟨0, .function⟩ ∧ ContainerAt rs (.request 1) c ∧
    ContainerAt rs (.request 4) d ∧ d ≠ ⟨0, .function⟩ ∧ d.id ≠ c.id ∧
    (leave d nop).leaveTo? c = none ∧ (leave d nop).returned? = some nop := by
  intro rs c d
  have hb : drawn .blocks rs ≤ 4294967295 := by decide
  have hc : drawn .containers rs ≤ 4294967294 := by decide
  have hfirst : BlockAt rs 0 ⟨0⟩ := ⟨rfl, rfl⟩
  have hsecond : BlockAt rs 3 ⟨1⟩ := ⟨rfl, rfl⟩
  have hbody : ContainerAt rs .body ⟨0, .function⟩ := rfl
  have hloop : ContainerAt rs (.request 1) c := ⟨.loop, rfl, rfl⟩
  have hnested : ContainerAt rs (.request 4) d := ⟨.function, rfl, rfl⟩
  obtain ⟨-, hblock, -, hcontainer, hreturn⟩ := handles_told_apart hb hc
  obtain ⟨hne, hid, hleave⟩ := hcontainer _ _ _ _ hnested hloop
  refine ⟨hb, hc, hfirst, hsecond, ?_, hbody, hloop, hnested, ?_, ?_, (hleave nop).1, ?_⟩
  · exact mt (hblock _ _ _ _ hfirst hsecond).2.mp (by decide)
  · exact mt (hcontainer _ _ _ _ hnested hbody).1.mp (by decide)
  · exact mt (hid.symm.trans hne).mp (by decide)
  · refine (hreturn (leave d nop) nop fun e y he => ?_).mpr ⟨.request 4, d, hnested, rfl, rfl⟩
    obtain ⟨rfl, -⟩ := leave.inj he
    exact ⟨_, hnested⟩

end ILTree.Inst
