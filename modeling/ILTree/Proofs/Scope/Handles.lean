import ILTree.Proofs.Scope.History

/-!
# Where handles come from

Blocks and containers are plain numbers, and nothing in them says who gave them out.  Within the
counters that number them, the number tells: no two requests of a run are given the same one.

* `Scope.Drew rs c n a`     the request at position `n` drew on the counter `c` and got the answer `a`;
* `Drew.number_eq_iff`      two requests that drew on one counter got one number only if they are one;
* `Scope.BlockAt`, `block_eq_iff`            blocks, with the requests that they come from;
* `Scope.ContainerAt`, `container_eq_iff`    containers, with where they come from: the body of the
                            function or a request;
* `container_id_iff`        the number alone tells containers apart, whatever they structure;
* `containers_eq_of_id`     the same for the containers of a scope, without where they come from.
-/

namespace ILTree

namespace Scope

/-! ## positions -/

/-- The request at position `n` of the run drew on the counter `c` and was answered with `a`. -/
def Drew (rs : List Request) (c : Counter) (n : Nat) (a : Answer) : Prop :=
  ∃ r, rs[n]? = some r ∧ r.counter? = some c ∧ (new.run rs).1[n]? = some a

/-- Every request that draws on a counter takes part in the count from its position on. -/
theorem drawn_take_lt {rs : List Request} {c : Counter} {n m : Nat} {r : Request}
    (hr : rs[n]? = some r) (hc : r.counter? = some c) (h : n < m) :
    drawn c (rs.take n) < drawn c (rs.take m) := by
  have hsucc : drawn c (rs.take (n + 1)) = drawn c (rs.take n) + 1 := by
    rw [List.take_add_one, hr, drawn, List.countP_append, ← drawn]
    congr 1
    exact List.countP_cons_of_pos (by simpa using hc)
  have hle : drawn c (rs.take (n + 1)) ≤ drawn c (rs.take m) :=
    (List.take_prefix_take_left h).sublist.countP_le
  omega

section
variable {rs : List Request} {c : Counter} {n m : Nat} {a b : Answer}

theorem Drew.answer_eq (hn : Drew rs c n a) (hm : Drew rs c n b) : a = b := by
  obtain ⟨-, -, -, ha⟩ := hn
  obtain ⟨-, -, -, hb⟩ := hm
  exact Option.some.inj (ha.symm.trans hb)

/-- The number in the answer is how many requests drew on the counter before. -/
theorem Drew.number (hn : Drew rs c n a) (hroom : new.Room c rs) :
    a.number? = some (new.next c + drawn c (rs.take n)) := by
  obtain ⟨r, hr, hc, ha⟩ := hn
  rw [run_getElem? hr] at ha
  obtain rfl := Option.some.inj ha
  rw [number_step hc, (hroom.sublist (List.take_sublist n rs)).next_run]

theorem Drew.not_lt (hn : Drew rs c n a) (hm : Drew rs c m b) (hroom : new.Room c rs)
    (e : a.number? = b.number?) : ¬ n < m := by
  intro hlt
  rw [hn.number hroom, hm.number hroom, Option.some.injEq] at e
  obtain ⟨r, hr, hc, -⟩ := hn
  have hdrawn := drawn_take_lt hr hc hlt
  omega

theorem Drew.number_eq_iff (hn : Drew rs c n a) (hm : Drew rs c m b) (hroom : new.Room c rs) :
    a.number? = b.number? ↔ n = m := by
  constructor
  · intro e
    have hle := Nat.not_lt.mp (hm.not_lt hn hroom e.symm)
    exact Nat.le_antisymm hle (Nat.not_lt.mp (hn.not_lt hm hroom e))
  · rintro rfl
    rw [hn.answer_eq hm]

end

/-! ## blocks -/

/-- The request at position `n` of the run handed out the block `b`. -/
def BlockAt (rs : List Request) (n : Nat) (b : Block) : Prop :=
  rs[n]? = some .newBlock ∧ (new.run rs).1[n]? = some (.block b)

theorem exists_blockAt {rs : List Request} {n : Nat} :
    (∃ b, BlockAt rs n b) ↔ rs[n]? = some .newBlock := by
  constructor
  · rintro ⟨b, hr, -⟩
    exact hr
  · intro hr
    exact ⟨_, hr, run_getElem? hr new⟩

theorem BlockAt.drew {rs : List Request} {n : Nat} {b : Block} (h : BlockAt rs n b) :
    Drew rs .blocks n (.block b) := ⟨.newBlock, h.1, rfl, h.2⟩

theorem block_number_eq_iff (b d : Block) :
    (Answer.block b).number? = (Answer.block d).number? ↔ b = d := by
  obtain ⟨x⟩ := b
  obtain ⟨y⟩ := d
  rw [Answer.number?, Answer.number?, Option.some.injEq, Int.natCast_inj, UInt32.toNat_inj,
    Block.mk.injEq]

theorem block_eq_iff {rs : List Request} (hroom : new.Room .blocks rs) {n m : Nat} {b d : Block}
    (hb : BlockAt rs n b) (hd : BlockAt rs m d) : b = d ↔ n = m := by
  rw [← block_number_eq_iff, hb.drew.number_eq_iff hd.drew hroom]

/-! ## containers -/

/-- where a container comes from: the body is there before any request -/
inductive Origin where
  | body
  | request (n : Nat)
  deriving DecidableEq

/-- the container was asked for as the body of a function -/
def Origin.IsFunction (rs : List Request) : Origin → Prop
  | body => True
  | request n => rs[n]? = some (.newContainer .function)

/-- The container `c` of the scope that the run leads to comes from there. -/
def ContainerAt (rs : List Request) : Origin → Container → Prop
  | .body, c => (new.run rs).2.body = c
  | .request n, c =>
    ∃ kind, rs[n]? = some (.newContainer kind) ∧ (new.run rs).1[n]? = some (.container c)

theorem exists_containerAt {rs : List Request} {n : Nat} :
    (∃ c, ContainerAt rs (.request n) c) ↔ ∃ kind, rs[n]? = some (.newContainer kind) := by
  constructor
  · rintro ⟨c, kind, hr, -⟩
    exact ⟨kind, hr⟩
  · rintro ⟨kind, hr⟩
    exact ⟨_, kind, hr, run_getElem? hr new⟩

section
variable {rs : List Request} {n : Nat} {c d : Container}

theorem ContainerAt.drew (h : ContainerAt rs (.request n) c) :
    Drew rs .containers n (.container c) := by
  obtain ⟨kind, hr, ha⟩ := h
  exact ⟨.newContainer kind, hr, rfl, ha⟩

theorem ContainerAt.kind {kind : ContainerKind} (h : ContainerAt rs (.request n) c)
    (hr : rs[n]? = some (.newContainer kind)) : c.kind = kind := by
  obtain ⟨-, -, ha⟩ := h
  rw [run_getElem? hr] at ha
  cases ha
  rfl

theorem containerAt_body : ContainerAt rs .body c ↔ c = ⟨0, .function⟩ := by
  rw [ContainerAt, run_body]
  exact eq_comm

theorem container_number_eq_iff (c d : Container) :
    (Answer.container c).number? = (Answer.container d).number? ↔ c.id = d.id := by
  rw [Answer.number?, Answer.number?, Option.some.injEq, Int.natCast_inj, UInt32.toNat_inj]

/-- Requests are given numbers from one on, and the body has zero. -/
theorem ContainerAt.id_ne_zero (hroom : new.Room .containers rs)
    (h : ContainerAt rs (.request n) c) : c.id ≠ 0 := by
  intro e
  have hnumber := h.drew.number hroom
  have hnext : new.next .containers = 1 := rfl
  rw [Answer.number?, e, hnext, Option.some.injEq] at hnumber
  have hzero : (0 : UInt32).toNat = 0 := rfl
  omega

/-- Two containers have one number only if they come from one place. -/
theorem container_id_iff (hroom : new.Room .containers rs) {o p : Origin}
    (hc : ContainerAt rs o c) (hd : ContainerAt rs p d) : c.id = d.id ↔ o = p := by
  cases o with
  | body =>
    obtain rfl := containerAt_body.mp hc
    cases p with
    | body =>
      obtain rfl := containerAt_body.mp hd
      simp
    | request m =>
      have hne := hd.id_ne_zero hroom
      simp [hne.symm]
  | request n =>
    cases p with
    | body =>
      obtain rfl := containerAt_body.mp hd
      have hne := hc.id_ne_zero hroom
      simp [hne]
    | request m =>
      rw [← container_number_eq_iff, hc.drew.number_eq_iff hd.drew hroom, Origin.request.injEq]

/-- One place gives one container. -/
theorem ContainerAt.unique {o : Origin} (hc : ContainerAt rs o c) (hd : ContainerAt rs o d) :
    c = d := by
  cases o with
  | body => exact hc.symm.trans hd
  | request n => exact Answer.container.inj (hc.drew.answer_eq hd.drew)

theorem container_eq_iff (hroom : new.Room .containers rs) {o p : Origin}
    (hc : ContainerAt rs o c) (hd : ContainerAt rs p d) : c = d ↔ o = p := by
  constructor
  · rintro rfl
    exact (container_id_iff hroom hc hd).mp rfl
  · rintro rfl
    exact hc.unique hd

/-- The body of a function is the first container, or was asked for as one. -/
theorem ContainerAt.isFunctionBody_iff {o : Origin} (h : ContainerAt rs o c) :
    c.isFunctionBody = true ↔ o.IsFunction rs := by
  rw [Container.isFunctionBody, beq_iff_eq]
  cases o with
  | body =>
    obtain rfl := containerAt_body.mp h
    exact ⟨fun _ => trivial, fun _ => rfl⟩
  | request n =>
    obtain ⟨kind, hr⟩ := exists_containerAt.mp ⟨c, h⟩
    rw [Origin.IsFunction, h.kind hr, hr]
    simp

end

/-! ## all containers of a scope -/

/-- an answer hands out a container only if asked to -/
theorem newContainer_of_step {s : Scope} {r : Request} {c : Container}
    (h : (s.step r).1 = .container c) : ∃ kind, r = .newContainer kind := by
  cases r with
  | newContainer kind => exact ⟨kind, rfl⟩
  | declareThis | declareParameter | lookUp => exact absurd h (Answer.ofExcept_ne_container _ c)
  | _ => cases h

theorem container?_eq_some {a : Answer} {c : Container} :
    a.container? = some c ↔ a = .container c := by
  cases a <;> simp [Answer.container?]

theorem mem_targets_iff {rs : List Request} {c : Container} :
    c ∈ targets rs ↔ ∃ o, ContainerAt rs o c := by
  rw [targets, List.mem_cons, handedContainers, List.mem_filterMap]
  constructor
  · rintro (rfl | ⟨a, ha, hc⟩)
    · exact ⟨.body, rfl⟩
    · obtain rfl := container?_eq_some.mp hc
      obtain ⟨n, hn⟩ := List.mem_iff_getElem?.mp ha
      have hlt := (List.getElem?_eq_some_iff.mp hn).1
      rw [run_length] at hlt
      have hr : rs[n]? = some rs[n] := List.getElem?_eq_getElem hlt
      obtain ⟨kind, hkind⟩ :=
        newContainer_of_step (Option.some.inj ((run_getElem? hr new).symm.trans hn))
      exact ⟨.request n, kind, hr.trans (congrArg some hkind), hn⟩
  · rintro ⟨o, h⟩
    cases o with
    | body => exact .inl h.symm
    | request n =>
      obtain ⟨kind, -, ha⟩ := h
      exact .inr ⟨.container c, List.mem_of_getElem? ha, rfl⟩

/-- The containers of one scope are told apart by their ids, whatever they structure. -/
theorem containers_eq_of_id {rs : List Request} (hroom : new.Room .containers rs) {c d : Container}
    (hc : c ∈ targets rs) (hd : d ∈ targets rs) (e : c.id = d.id) : c = d := by
  obtain ⟨o, ho⟩ := mem_targets_iff.mp hc
  obtain ⟨p, hp⟩ := mem_targets_iff.mp hd
  obtain rfl := (container_id_iff hroom ho hp).mp e
  exact ho.unique hp

end Scope

end ILTree
