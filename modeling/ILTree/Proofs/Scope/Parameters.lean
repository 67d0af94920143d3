import ILTree.Proofs.Scope.Table

/-!
# Parameters over a run

A parameter is declared once for each index, and the receiver has an index that no other parameter
can have.  Which declarations are refused can be told from the requests alone.

* `asked rs`           the indexes and types of the parameters that the requests ask for;
* `step_parameter`     a request for a parameter, accepted or refused;
* `Recalls past s`     the parameters of `s` are those that `past` asks for, each as it was first
                       asked for (`recalls_run`);
* `parameters_of_history`   refusals and parameters from the history alone.
-/

namespace ILTree

/-- the index and the type of the parameter that a request asks for -/
def Request.parameter? : Request → Option (Int32 × Ty)
  | declareThis ty => some (Variable.thisIndex, ty)
  | declareParameter index ty => some (Int32.ofNat index.toNat, ty)
  | _ => none

/-- the parameters that a list of requests asks for, repetitions included -/
def asked (rs : List Request) : List (Int32 × Ty) := rs.filterMap Request.parameter?

theorem asked_concat (rs : List Request) (r : Request) :
    asked (rs ++ [r]) = asked rs ++ r.parameter?.toList := by
  rw [asked, List.filterMap_append, ← asked]
  cases h : r.parameter? <;> simp [h]

theorem mem_asked {rs : List Request} {index : Int32} :
    index ∈ (asked rs).map Prod.fst ↔ ∃ q ∈ rs, ∃ ty, q.parameter? = some (index, ty) := by
  constructor
  · intro h
    obtain ⟨⟨_, ty⟩, hp, rfl⟩ := List.mem_map.mp h
    obtain ⟨q, hq, e⟩ := List.mem_filterMap.mp hp
    exact ⟨q, hq, ty, e⟩
  · rintro ⟨q, hq, ty, e⟩
    exact List.mem_map.mpr ⟨(index, ty), List.mem_filterMap.mpr ⟨q, hq, e⟩, rfl⟩

theorem eraseDups_concat {α : Type} [DecidableEq α] (xs : List α) (x : α) :
    (xs ++ [x]).eraseDups = if x ∈ xs then xs.eraseDups else xs.eraseDups ++ [x] := by
  rw [List.eraseDups_append]
  split
  next h => simp [List.removeAll, h]
  next h => simp [List.removeAll, h, List.eraseDups_cons]

/-! ## indexes of parameters -/

theorem toInt_parameterIndex (n : UInt16) : (Int32.ofNat n.toNat).toInt = n.toNat := by
  have hlt := n.toNat_lt
  exact Int32.toInt_ofNat_of_lt (by omega)

/-- no position in a signature is taken for the receiver -/
theorem parameterIndex_ne_this (n : UInt16) : Int32.ofNat n.toNat ≠ Variable.thisIndex := by
  intro e
  have h := toInt_parameterIndex n
  have hthis : Variable.thisIndex.toInt = -1 := rfl
  rw [e, hthis] at h
  omega

theorem parameterIndex_inj {n m : UInt16} (h : Int32.ofNat n.toNat = Int32.ofNat m.toNat) :
    n = m := by
  have e := congrArg Int32.toInt h
  rw [toInt_parameterIndex, toInt_parameterIndex] at e
  exact UInt16.toNat_inj.mp (Int.ofNat.inj e)

theorem parameter?_eq_this {q : Request} {ty : Ty} :
    q.parameter? = some (Variable.thisIndex, ty) ↔ q = .declareThis ty := by
  cases q with
  | declareThis t => simp [Request.parameter?]
  | declareParameter n t => simp [Request.parameter?, parameterIndex_ne_this]
  | _ => simp [Request.parameter?]

theorem parameter?_eq_position {q : Request} {n : UInt16} {ty : Ty} :
    q.parameter? = some (Int32.ofNat n.toNat, ty) ↔ q = .declareParameter n ty := by
  cases q with
  | declareThis t => simp [Request.parameter?, (parameterIndex_ne_this n).symm]
  | declareParameter m t =>
    constructor
    · intro h
      obtain ⟨hi, rfl⟩ := Prod.mk.inj (Option.some.inj h)
      rw [parameterIndex_inj hi]
    · intro h
      rw [h, Request.parameter?]
  | _ => simp [Request.parameter?]

namespace Scope

/-! ## one request and the parameters -/

theorem step_declareAt {s : Scope} {r : Request} {index : Int32} {ty : Ty}
    (h : r.parameter? = some (index, ty)) :
    s.step r = (s.declareAt index ty).map Answer.ofExcept id := by
  cases r <;> cases h <;> rfl

theorem step_parameter {s : Scope} {r : Request} {index : Int32} {ty : Ty}
    (h : r.parameter? = some (index, ty)) :
    s.step r =
      if s.hasParameter index then (.refused (.duplicateParameter index), s)
      else (.var (s.nextVariable .parameter index ty none),
        (s.push (s.nextVariable .parameter index ty none)).2) :=
  (step_declareAt h).trans (map_declareAt s index ty)

theorem Declares.parameter? {s : Scope} {r : Request} {v : Variable} (h : s.Declares r v) :
    v.kind = .parameter ↔ r.parameter?.isSome = true := by
  cases h <;> simp [nextVariable, Request.parameter?]

theorem step_other {s : Scope} {r : Request} (h : r.parameter? = none) :
    (s.step r).2.parameters = s.parameters := by
  obtain ⟨v, hv, -, ht⟩ | ⟨-, ht⟩ := step_cases s r
  · have hk : v.kind ≠ .parameter := by
      rw [Ne, hv.parameter?, h]
      exact Bool.false_ne_true
    rw [parameters, ht, List.filter_append, ← parameters]
    simp [hk]
  · rw [parameters, ht, ← parameters]

theorem hasParameter_iff {s : Scope} {index : Int32} :
    s.hasParameter index = true ↔ index ∈ s.parameters.map fun v => v.index := by
  simp [hasParameter, parameters, and_assoc]

/-- The parameters of a scope are those that the requests of `past` ask for: each index once, in
the order of the first requests, with the type of the first request. -/
structure Recalls (past : List Request) (s : Scope) : Prop where
  indexes : (s.parameters.map fun v => v.index) = ((asked past).map Prod.fst).eraseDups
  distinct : (s.parameters.map fun v => v.index).Nodup
  first : ∀ v ∈ s.parameters, (asked past).find? (·.1 == v.index) = some (v.index, v.ty)

theorem Recalls.hasParameter {past : List Request} {s : Scope} (h : s.Recalls past)
    {index : Int32} : s.hasParameter index = true ↔ index ∈ (asked past).map Prod.fst := by
  rw [hasParameter_iff, h.indexes, List.mem_eraseDups]

theorem recalls_new : new.Recalls [] where
  indexes := rfl
  distinct := .nil
  first _ hv := absurd hv List.not_mem_nil

/-- no pair has the index -/
theorem find?_asked_eq_none {past : List Request} {index : Int32}
    (h : index ∉ (asked past).map Prod.fst) : (asked past).find? (·.1 == index) = none := by
  rw [List.find?_eq_none]
  intro p hp e
  exact h (List.mem_map.mpr ⟨p, hp, beq_iff_eq.mp e⟩)

/-- a parameter asked for before is still found where it was first asked for -/
theorem Recalls.first_concat {past : List Request} {s : Scope} (h : s.Recalls past) (r : Request)
    {v : Variable} (hv : v ∈ s.parameters) :
    (asked (past ++ [r])).find? (·.1 == v.index) = some (v.index, v.ty) := by
  rw [asked_concat, List.find?_append, h.first v hv, Option.some_or]

/-- a request that asks for no parameter, or for one that is there, leaves nothing to add -/
theorem Recalls.keep {past : List Request} {s t : Scope} (h : s.Recalls past) {r : Request}
    (hr : ∀ p, r.parameter? = some p → p.1 ∈ (asked past).map Prod.fst)
    (ht : t.parameters = s.parameters) : t.Recalls (past ++ [r]) := by
  have hindexes : ((asked (past ++ [r])).map Prod.fst).eraseDups =
      ((asked past).map Prod.fst).eraseDups := by
    rw [asked_concat, List.map_append]
    cases hp : r.parameter? with
    | none => rw [Option.toList_none, List.map_nil, List.append_nil]
    | some p =>
      rw [Option.toList_some, List.map_singleton, eraseDups_concat, if_pos (hr p hp)]
  refine ⟨?_, ?_, fun v hv => ?_⟩
  · rw [ht, hindexes]
    exact h.indexes
  · rw [ht]
    exact h.distinct
  · rw [ht] at hv
    exact h.first_concat r hv

/-- a request for a parameter that is not there adds it -/
theorem Recalls.push {past : List Request} {s t : Scope} (h : s.Recalls past) {r : Request}
    {v : Variable} (hr : r.parameter? = some (v.index, v.ty))
    (hnew : v.index ∉ (asked past).map Prod.fst) (ht : t.parameters = s.parameters ++ [v]) :
    t.Recalls (past ++ [r]) := by
  have hasked : asked (past ++ [r]) = asked past ++ [(v.index, v.ty)] := by
    rw [asked_concat, hr, Option.toList_some]
  refine ⟨?_, ?_, fun w hw => ?_⟩
  · rw [ht, hasked, List.map_append, List.map_append, List.map_singleton, List.map_singleton,
      eraseDups_concat, if_neg hnew, h.indexes]
  · rw [← List.mem_eraseDups, ← h.indexes] at hnew
    rw [ht, List.map_append, List.map_singleton, List.nodup_append]
    refine ⟨h.distinct, List.pairwise_singleton _ _, fun i hi j hj e => ?_⟩
    rw [e, List.mem_singleton.mp hj] at hi
    exact hnew hi
  · rw [ht, List.mem_append, List.mem_singleton] at hw
    rcases hw with hw | rfl
    · exact h.first_concat r hw
    · rw [hasked, List.find?_append, find?_asked_eq_none hnew, Option.none_or,
        List.find?_singleton, beq_self_eq_true, if_pos rfl]

theorem recalls_step (past : List Request) (s : Scope) (r : Request) (h : s.Recalls past) :
    (s.step r).2.Recalls (past ++ [r]) := by
  cases hr : r.parameter? with
  | none => exact h.keep (fun p hp => absurd (hr.symm.trans hp) (by simp)) (step_other hr)
  | some p =>
    obtain ⟨index, ty⟩ := p
    rw [step_parameter hr]
    by_cases htaken : s.hasParameter index = true
    · rw [if_pos htaken]
      refine h.keep (fun p hp => ?_) rfl
      obtain rfl := Option.some.inj (hr.symm.trans hp)
      exact h.hasParameter.mp htaken
    · rw [if_neg htaken]
      refine h.push (v := s.nextVariable .parameter index ty none) hr
        (fun hm => htaken (h.hasParameter.mpr hm)) ?_
      rw [parameters, push, List.filter_append, ← parameters]
      rfl

theorem recalls_run (past : List Request) : (new.run past).2.Recalls past :=
  run_history recalls_step past [] new recalls_new

/-! ## refusals -/

/-- A declaration of a parameter is refused exactly if its index was asked for before. -/
theorem refused_iff {past : List Request} {r : Request} {index : Int32} {ty : Ty}
    (h : r.parameter? = some (index, ty)) :
    (∃ fault, ((new.run past).2.step r).1 = .refused fault) ↔
      ∃ q ∈ past, ∃ ty', q.parameter? = some (index, ty') := by
  rw [← mem_asked, ← (recalls_run past).hasParameter, step_parameter h]
  split <;> simp_all

theorem eq_of_refused {s : Scope} {r : Request} {index : Int32} {ty : Ty}
    (h : r.parameter? = some (index, ty)) {fault : Fault} (hf : (s.step r).1 = .refused fault) :
    fault = .duplicateParameter index ∧ (s.step r).2 = s := by
  rw [step_declareAt h] at hf ⊢
  exact declareAt_refused (Answer.ofExcept_eq_refused.mp hf)

theorem run_length (s : Scope) (rs : List Request) : (s.run rs).1.length = rs.length := by
  induction rs generalizing s with
  | nil => rfl
  | cons r rs ih => rw [run_cons, List.length_cons, ih, List.length_cons]

/-- Without a request that leaves the scope as it was, all others are answered as with it. -/
theorem run_without {s : Scope} {past : List Request} {r : Request}
    (h : ((s.run past).2.step r).2 = (s.run past).2) (more : List Request) :
    (s.run (past ++ r :: more)).1.eraseIdx past.length = (s.run (past ++ more)).1 ∧
    (s.run (past ++ r :: more)).2 = (s.run (past ++ more)).2 := by
  have hlength := run_length s past
  rw [run_append, run_append, run_cons, h]
  refine ⟨?_, rfl⟩
  rw [List.eraseIdx_append_of_length_le (by omega), hlength, Nat.sub_self]
  rfl

/-- **Parameters from the history.**  After any run a declaration of the receiver or of a parameter
is refused exactly if an earlier request asked for its index.  The fault names the index, the scope
stays as it was, and whatever else is asked before or after is answered as if the declaration had
not been made.  The parameters of the scope are the indexes asked for, each once, in the order of
the first requests and with the types of the first requests.  The receiver is refused only for an
earlier receiver, a position only for the same position. -/
theorem parameters_of_history (past : List Request) :
    let s := (new.run past).2
    (∀ r index ty, r.parameter? = some (index, ty) →
      ((∃ fault, (s.step r).1 = .refused fault) ↔
        ∃ q ∈ past, ∃ ty', q.parameter? = some (index, ty')) ∧
      ∀ fault, (s.step r).1 = .refused fault →
        fault = .duplicateParameter index ∧ (s.step r).2 = s ∧
        ∀ more,
          (new.run (past ++ r :: more)).1.eraseIdx past.length = (new.run (past ++ more)).1 ∧
          (new.run (past ++ r :: more)).2 = (new.run (past ++ more)).2) ∧
    (s.parameters.map fun v => v.index) = ((asked past).map Prod.fst).eraseDups ∧
    (s.parameters.map fun v => v.index).Nodup ∧
    (∀ v ∈ s.parameters, v.kind = .parameter ∧
      (asked past).find? (·.1 == v.index) = some (v.index, v.ty)) ∧
    (∀ ty, (∃ fault, (s.step (.declareThis ty)).1 = .refused fault) ↔
      ∃ ty', .declareThis ty' ∈ past) ∧
    (∀ n ty, (∃ fault, (s.step (.declareParameter n ty)).1 = .refused fault) ↔
      ∃ ty', .declareParameter n ty' ∈ past) := by
  intro s
  have hs : s.Recalls past := recalls_run past
  refine ⟨fun r index ty h => ⟨refused_iff h, fun fault hf => ?_⟩, hs.indexes, hs.distinct,
    fun v hv => ⟨?_, hs.first v hv⟩, fun ty => ?_, fun n ty => ?_⟩
  · obtain ⟨hfault, hkept⟩ := eq_of_refused h hf
    exact ⟨hfault, hkept, run_without hkept⟩
  · exact beq_iff_eq.mp (List.mem_filter.mp hv).2
  · rw [refused_iff (r := .declareThis ty) rfl]
    constructor
    · rintro ⟨q, hq, ty', e⟩
      exact ⟨ty', parameter?_eq_this.mp e ▸ hq⟩
    · rintro ⟨ty', hq⟩
      exact ⟨_, hq, ty', rfl⟩
  · rw [refused_iff (r := .declareParameter n ty) rfl]
    constructor
    · rintro ⟨q, hq, ty', e⟩
      exact ⟨ty', parameter?_eq_position.mp e ▸ hq⟩
    · rintro ⟨ty', hq⟩
      exact ⟨_, hq, ty', rfl⟩

/-- position 1 asked for once more, with another type, between a local and a receiver -/
theorem parameters_of_history_repeated :
    let past : List Request := [.declareParameter 1 .i32, .newLocal .f64]
    let r : Request := .declareParameter 1 .i64
    let more : List Request := [.declareThis .object, .declareParameter 65535 .bool]
    r.parameter? = some (1, .i64) ∧
    ((new.run past).2.step r).1 = .refused (.duplicateParameter 1) ∧
    (new.run (past ++ r :: more)).1.eraseIdx 2 = (new.run (past ++ more)).1 ∧
    (new.run (past ++ r :: more)).2 = (new.run (past ++ more)).2 ∧
    (asked (past ++ r :: more)).map Prod.fst = [1, 1, -1, 65535] ∧
    ((new.run (past ++ r :: more)).2.parameters.map fun v => v.index) = [1, -1, 65535] := by
  intro past r more
  have hf : ((new.run past).2.step r).1 = .refused (.duplicateParameter 1) := by decide
  obtain ⟨hrefused, -⟩ := parameters_of_history past
  obtain ⟨-, -, hmore⟩ := (hrefused r 1 .i64 rfl).2 _ hf
  obtain ⟨-, hindexes, -⟩ := parameters_of_history (past ++ r :: more)
  refine ⟨rfl, hf, (hmore more).1, (hmore more).2, by decide, ?_⟩
  rw [hindexes]
  decide

end Scope

end ILTree
