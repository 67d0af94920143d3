import Mathlib.Data.List.Nodup
import ILTree.Proofs.Scope.Table

/-!
# The numbers a scope gives

Locals, stack slots, exception variables, blocks and containers are each numbered in a sequence of
their own.  The counters hold 32 bits; what is said here is for runs that stay within them.

* `Counter`, `next s c`      the sequences, and the number that comes next in each;
* `Room s c rs`              the counter `c` keeps within its end in the run `rs` from `s`;
* `Within s rs`              all counters do;
* `next_step`, `Room.next_run`   a request moves the counter it draws on by one, and no other;
* `Numbered s`               variables of one sort have different numbers, none used up before its
                             turn (`numbered_run`, where blocks and containers are free);
* `targets rs`               the containers of a scope, its body included.
-/

namespace ILTree

/-- the sequences in which a scope numbers what it hands out -/
inductive Counter where
  | locals | stackSlots | exceptions | blocks | containers
  deriving DecidableEq

/-- the largest number a counter holds -/
def Counter.top : Counter → Int
  | locals | stackSlots | exceptions => 2147483647
  | blocks | containers => 4294967295

/-- the counter that a request draws on; parameters bring their own number -/
def Request.counter? : Request → Option Counter
  | newLocal _ | newNamedLocal _ _ | newPinnedLocal _ => some .locals
  | newStackSlot _ => some .stackSlots
  | newExceptionVariable _ => some .exceptions
  | newBlock => some .blocks
  | newContainer _ => some .containers
  | declareThis _ | declareParameter _ _ | lookUp _ => none

/-- the counter that numbers the variables of a kind -/
def VariableKind.counter? : VariableKind → Option Counter
  | localSlot | pinnedLocal => some .locals
  | stackSlot => some .stackSlots
  | exceptionSlot => some .exceptions
  | parameter => none

theorem VariableKind.eq_parameter {k : VariableKind} (h : k.counter? = none) : k = .parameter := by
  cases k <;> first | rfl | cases h

/-- the variables of some kind draw their numbers from the counter -/
def Counter.NumbersVariables (c : Counter) : Prop := ∃ k : VariableKind, k.counter? = some c

/-- the sort of a variable, and its number there -/
def Variable.number (v : Variable) : Option Counter × Int32 := (v.kind.counter?, v.index)

/-- the container that an answer hands out -/
def Answer.container? : Answer → Option Container
  | container c => some c
  | _ => none

/-- how many of the requests draw on the counter -/
def drawn (c : Counter) (rs : List Request) : Nat := rs.countP fun r => r.counter? == some c

namespace Scope

/-! ## counters -/

/-- the number that comes next in the sequence -/
def next (s : Scope) : Counter → Int
  | .locals => s.localCount.toInt
  | .stackSlots => s.stackSlotCount.toInt
  | .exceptions => s.exceptionCount.toInt
  | .blocks => s.nextBlock.toNat
  | .containers => s.nextContainer.toNat

/-- the counter does not go past its end -/
def Room (s : Scope) (c : Counter) (rs : List Request) : Prop := s.next c + drawn c rs ≤ c.top

/-- no counter goes past its end -/
def Within (s : Scope) (rs : List Request) : Prop := ∀ c, s.next c + drawn c rs ≤ c.top

theorem toInt_add_one {x : Int32} (h : x.toInt < 2147483647) : (x + 1).toInt = x.toInt + 1 := by
  have hlow := x.le_toInt
  have hone : (1 : Int32).toInt = 1 := rfl
  rw [Int32.toInt_add, hone]
  exact Int.bmod_eq_of_le (by omega) (by omega)

theorem toNat_add_one {x : UInt32} (h : (x.toNat : Int) < 4294967295) :
    ((x + 1).toNat : Int) = x.toNat + 1 := by
  have hone : (1 : UInt32).toNat = 1 := rfl
  rw [UInt32.toNat_add, hone]
  omega

/-- a refused or accepted declaration of a parameter moves no counter -/
theorem next_declareAt (s : Scope) (index : Int32) (ty : Ty) (c : Counter) :
    (s.declareAt index ty).2.next c = s.next c := by
  rw [declareAt_frame]
  cases c <;> rfl

/-- A request moves the counter that it draws on by one, and no other. -/
theorem next_step (s : Scope) (r : Request) (c : Counter)
    (h : r.counter? = some c → s.next c < c.top) :
    (s.step r).2.next c = s.next c + if r.counter? = some c then 1 else 0 := by
  cases r with
  | newLocal | newNamedLocal | newPinnedLocal =>
    cases c with
    | locals => exact toInt_add_one (h rfl)
    | _ => exact (Int.add_zero _).symm
  | newStackSlot ty =>
    cases c with
    | stackSlots => exact toInt_add_one (h rfl)
    | _ => exact (Int.add_zero _).symm
  | newExceptionVariable ty =>
    cases c with
    | exceptions => exact toInt_add_one (h rfl)
    | _ => exact (Int.add_zero _).symm
  | newBlock =>
    cases c with
    | blocks => exact toNat_add_one (h rfl)
    | _ => exact (Int.add_zero _).symm
  | newContainer kind =>
    cases c with
    | containers => exact toNat_add_one (h rfl)
    | _ => exact (Int.add_zero _).symm
  | declareThis ty => exact (next_declareAt s _ ty c).trans (Int.add_zero _).symm
  | declareParameter index ty => exact (next_declareAt s _ ty c).trans (Int.add_zero _).symm
  | lookUp id => exact (Int.add_zero _).symm

theorem drawn_cons (c : Counter) (r : Request) (rs : List Request) :
    (drawn c (r :: rs) : Int) = (if r.counter? = some c then 1 else 0) + drawn c rs := by
  by_cases h : r.counter? = some c
  · rw [drawn, List.countP_cons_of_pos (by simpa using h), if_pos h, ← drawn]
    omega
  · rw [drawn, List.countP_cons_of_neg (by simpa using h), if_neg h, ← drawn]
    omega

theorem Room.lt_top {s : Scope} {c : Counter} {r : Request} {rs : List Request}
    (h : s.Room c (r :: rs)) (hc : r.counter? = some c) : s.next c < c.top := by
  rw [Room, drawn_cons, if_pos hc] at h
  omega

theorem Room.step {s : Scope} {c : Counter} {r : Request} {rs : List Request}
    (h : s.Room c (r :: rs)) : (s.step r).2.Room c rs := by
  have hnext := next_step s r c h.lt_top
  rw [Room, drawn_cons] at h
  rw [Room, hnext]
  omega

theorem Room.sublist {s : Scope} {c : Counter} {rs qs : List Request} (h : s.Room c qs)
    (hsub : rs.Sublist qs) : s.Room c rs := by
  have hle : drawn c rs ≤ drawn c qs := hsub.countP_le
  rw [Room] at h ⊢
  omega

/-- A counter stands where it started plus the number of requests that drew on it. -/
theorem Room.next_run {s : Scope} {c : Counter} {rs : List Request} (h : s.Room c rs) :
    (s.run rs).2.next c = s.next c + drawn c rs := by
  induction rs generalizing s with
  | nil => exact (Int.add_zero _).symm
  | cons r rs ih =>
    rw [run_cons, ih h.step, next_step s r c h.lt_top, drawn_cons]
    omega

/-- What every request keeps that takes no counter of `C` past its end, a run keeps that takes none of
them there. -/
theorem run_room {C : Counter → Prop} {P : Scope → Prop}
    (step : ∀ s r, (∀ c, C c → r.counter? = some c → s.next c < c.top) → P s → P (s.step r).2)
    (rs : List Request) (s : Scope) (hroom : ∀ c, C c → s.Room c rs) (h : P s) :
    P (s.run rs).2 := by
  induction rs generalizing s with
  | nil => exact h
  | cons r rs ih =>
    have hlt (c : Counter) (hc : C c) (hr : r.counter? = some c) : s.next c < c.top :=
      (hroom c hc).lt_top hr
    exact ih _ (fun c hc => (hroom c hc).step) (step s r hlt h)

/-! ## numbers of variables -/

/-- the number that a declared variable gets: the next one of its counter, or the requested one
of a parameter not declared yet, which is not below `-1` -/
theorem Declares.number {s : Scope} {r : Request} {v : Variable} (h : s.Declares r v) :
    (∃ c, r.counter? = some c ∧ v.kind.counter? = some c ∧ v.index.toInt = s.next c) ∨
    (v.kind = .parameter ∧ s.hasParameter v.index = false ∧
      (v.index = -1 ∨ 0 ≤ v.index.toInt)) := by
  cases h with
  | newLocal ty => exact .inl ⟨.locals, rfl, rfl, rfl⟩
  | newNamedLocal ty name => exact .inl ⟨.locals, rfl, rfl, rfl⟩
  | newPinnedLocal ty => exact .inl ⟨.locals, rfl, rfl, rfl⟩
  | newStackSlot ty => exact .inl ⟨.stackSlots, rfl, rfl, rfl⟩
  | newExceptionVariable ty => exact .inl ⟨.exceptions, rfl, rfl, rfl⟩
  | declareThis ty fresh => exact .inr ⟨rfl, fresh, .inl rfl⟩
  | declareParameter index ty fresh =>
    refine .inr ⟨rfl, fresh, .inr ?_⟩
    have hlt := index.toNat_lt
    show 0 ≤ (Int32.ofNat index.toNat).toInt
    rw [Int32.toInt_ofNat_of_lt (by omega)]
    omega

/-- The numbers of variables: those of a counter from zero up to where it stands, those of
parameters from `-1` on, and different ones for variables of one sort. -/
structure Numbered (s : Scope) : Prop where
  next_nonneg (c : Counter) : 0 ≤ s.next c
  counted (v : Variable) (hv : v ∈ s.table) (c : Counter) (hc : v.kind.counter? = some c) :
    0 ≤ v.index.toInt ∧ v.index.toInt < s.next c
  parameter (v : Variable) (hv : v ∈ s.table) (hk : v.kind = .parameter) :
    v.index = -1 ∨ 0 ≤ v.index.toInt
  distinct : s.table.Pairwise fun v w => v.number ≠ w.number

theorem numbered_new : new.Numbered where
  next_nonneg c := by cases c <;> decide
  counted _ hv := absurd hv List.not_mem_nil
  parameter _ hv := absurd hv List.not_mem_nil
  distinct := .nil

/-- the variable that a request declares has a number that no variable of its sort has -/
theorem Numbered.fresh {s : Scope} (h : s.Numbered) {r : Request} {v : Variable}
    (hv : s.Declares r v) {w : Variable} (hw : w ∈ s.table) : w.number ≠ v.number := by
  intro hwv
  obtain ⟨hk, e⟩ := Prod.mk.inj hwv
  obtain ⟨c, -, hc, hi⟩ | ⟨hp, hnone, -⟩ := hv.number
  · have hlt := (h.counted w hw c (hk.trans hc)).2
    rw [e] at hlt
    omega
  · rw [hp] at hk
    have hwp := VariableKind.eq_parameter hk
    have hany : s.hasParameter v.index = true :=
      List.any_eq_true.mpr ⟨w, hw, by rw [hwp, e]; simp⟩
    rw [hnone] at hany
    cases hany

/-- The counters of blocks and containers are at least zero in any case. -/
theorem Numbered.next_nonneg_mono {s t : Scope} (h : s.Numbered)
    (hle : ∀ c : Counter, c.NumbersVariables → s.next c ≤ t.next c) (c : Counter) :
    0 ≤ t.next c := by
  have hcounted (hc : c.NumbersVariables) : 0 ≤ t.next c :=
    Int.le_trans (h.next_nonneg c) (hle c hc)
  cases c with
  | locals => exact hcounted ⟨.localSlot, rfl⟩
  | stackSlots => exact hcounted ⟨.stackSlot, rfl⟩
  | exceptions => exact hcounted ⟨.exceptionSlot, rfl⟩
  | blocks => exact Int.natCast_nonneg _
  | containers => exact Int.natCast_nonneg _

/-- counters of variables that have moved on, over the same table -/
theorem Numbered.mono {s t : Scope} (h : s.Numbered)
    (hle : ∀ c : Counter, c.NumbersVariables → s.next c ≤ t.next c)
    (ht : t.table = s.table) : t.Numbered := by
  refine ⟨h.next_nonneg_mono hle, fun v hv c hc => ?_, ?_, ?_⟩
  · rw [ht] at hv
    obtain ⟨hlow, hup⟩ := h.counted v hv c hc
    exact ⟨hlow, Int.lt_of_lt_of_le hup (hle c ⟨v.kind, hc⟩)⟩
  · rw [ht]
    exact h.parameter
  · rw [ht]
    exact h.distinct

/-- one more variable, with a number not used by its sort -/
theorem Numbered.push {s t : Scope} {v : Variable} (h : s.Numbered)
    (hle : ∀ c : Counter, c.NumbersVariables → s.next c ≤ t.next c)
    (ht : t.table = s.table ++ [v])
    (hcounted : ∀ c, v.kind.counter? = some c → 0 ≤ v.index.toInt ∧ v.index.toInt < t.next c)
    (hparameter : v.kind = .parameter → v.index = -1 ∨ 0 ≤ v.index.toInt)
    (hfresh : ∀ w ∈ s.table, w.number ≠ v.number) : t.Numbered := by
  refine ⟨h.next_nonneg_mono hle, fun w hw c hc => ?_, fun w hw hk => ?_, ?_⟩
  · rw [ht, List.mem_append, List.mem_singleton] at hw
    rcases hw with hw | rfl
    · obtain ⟨hlow, hup⟩ := h.counted w hw c hc
      exact ⟨hlow, Int.lt_of_lt_of_le hup (hle c ⟨w.kind, hc⟩)⟩
    · exact hcounted c hc
  · rw [ht, List.mem_append, List.mem_singleton] at hw
    rcases hw with hw | rfl
    · exact h.parameter w hw hk
    · exact hparameter hk
  · rw [ht, List.pairwise_append]
    refine ⟨h.distinct, List.pairwise_singleton _ _, fun w hw u hu => ?_⟩
    obtain rfl := List.mem_singleton.mp hu
    exact hfresh w hw

theorem numbered_step (s : Scope) (r : Request)
    (hlt : ∀ c : Counter, c.NumbersVariables → r.counter? = some c → s.next c < c.top)
    (h : s.Numbered) : (s.step r).2.Numbered := by
  have hnext (c : Counter) (hc : c.NumbersVariables) := next_step s r c (hlt c hc)
  have hle (c : Counter) (hc : c.NumbersVariables) : s.next c ≤ (s.step r).2.next c := by
    rw [hnext c hc]
    split <;> omega
  obtain ⟨v, hv, -, ht⟩ | ⟨-, ht⟩ := step_cases s r
  · refine h.push hle ht (fun c hc => ?_) (fun hk => ?_) (fun w hw => h.fresh hv hw)
    · obtain ⟨d, hd, hk, hi⟩ | ⟨hp, -⟩ := hv.number
      · obtain rfl : d = c := Option.some.inj (hk.symm.trans hc)
        have hpos := h.next_nonneg d
        rw [hnext d ⟨v.kind, hc⟩, if_pos hd]
        omega
      · rw [hp] at hc
        cases hc
    · obtain ⟨d, -, hc, -⟩ | ⟨-, -, hi⟩ := hv.number
      · rw [hk] at hc
        cases hc
      · exact hi
  · exact h.mono hle ht

/-- Only the counters of variables have to keep within their ends. -/
theorem numbered_run {rs : List Request}
    (hroom : ∀ c : Counter, c.NumbersVariables → new.Room c rs) : (new.run rs).2.Numbered :=
  run_room numbered_step rs new hroom numbered_new

/-- The counters of variables start at zero, and all have the same end. -/
theorem room_of_drawn_le {rs : List Request} {c : Counter} (hc : c.NumbersVariables)
    (h : drawn c rs ≤ 2147483647) : new.Room c rs := by
  obtain ⟨k, hk⟩ := hc
  have hends : new.next c = 0 ∧ c.top = 2147483647 := by
    cases k <;> cases hk <;> exact ⟨rfl, rfl⟩
  rw [Room, hends.1, hends.2]
  omega

/-- two variables of one sort with one number are the same in every field -/
theorem Numbered.eq_of_number {s : Scope} (h : s.Numbered) {v w : Variable} (hv : v ∈ s.table)
    (hw : w ∈ s.table) (e : v.number = w.number) : v = w :=
  List.inj_on_of_nodup_map (List.pairwise_map.mpr h.distinct) hv hw e

/-! ## containers -/

theorem step_body (s : Scope) (r : Request) : (s.step r).2.body = s.body := by
  cases r with
  | declareThis ty =>
    show (s.declareAt Variable.thisIndex ty).2.body = s.body
    rw [declareAt_frame]
  | declareParameter index ty =>
    show (s.declareAt (Int32.ofNat index.toNat) ty).2.body = s.body
    rw [declareAt_frame]
  | _ => rfl

theorem run_body (rs : List Request) (s : Scope) : (s.run rs).2.body = s.body := by
  induction rs generalizing s with
  | nil => rfl
  | cons r rs ih => rw [run_cons, ih, step_body]

/-- the containers handed out by a run, in order -/
def handedContainers (s : Scope) (rs : List Request) : List Container :=
  (s.run rs).1.filterMap Answer.container?

/-- the containers of the scope that a run leads to: its body, and those handed out -/
def targets (rs : List Request) : List Container :=
  (new.run rs).2.body :: new.handedContainers rs

end Scope

end ILTree
