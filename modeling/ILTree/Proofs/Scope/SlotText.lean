import ILTree.Proofs.Scope.Numbering
import ILTree.Proofs.Text.Word

/-!
# Variables without a name are told apart by their texts

Without a name, a variable prints as letters for its sort, then its number; only the receiver
prints as a word without a number.

* `toList_slotText`   the letters and the digits;
* `Numbered.word`     the text is a word, whatever delimits words inside instructions;
* `Numbered.eq_of_text`   two variables of one scope that print alike are the same variable;
* `text_eq_iff_id`    so it is after every run that leaves the counters of variables room.
-/

namespace ILTree

/-- what delimits words inside the text of an instruction -/
def delimiter (c : Char) : Bool := c == '(' || c == ')' || c == ',' || c == ' '

namespace VariableKind

/-- what stands before the number of a variable of this kind -/
def letters : VariableKind → List Char
  | localSlot | pinnedLocal => ['l', 'o', 'c']
  | parameter => ['a', 'r', 'g']
  | stackSlot => ['S', '_']
  | exceptionSlot => ['E', '_']

theorem letters_inj {k l : VariableKind} (h : k.letters = l.letters) : k.counter? = l.counter? := by
  cases k <;> cases l <;> first | rfl | exact absurd h (by decide)

theorem word_letters {stop : Char → Bool}
    (h : ∀ k ∈ Vocabulary.members (α := VariableKind), Word stop k.letters) (k : VariableKind) :
    Word stop k.letters := h k (Vocabulary.complete k)

end VariableKind

namespace Variable

theorem toList_repr_of_nonneg {i : Int32} (h : 0 ≤ i.toInt) :
    (Int.repr i.toInt).toList = Nat.toDigits 10 i.toInt.toNat := by
  rw [Int.repr_eq_if, if_pos h, Nat.toList_repr]

theorem toList_slotText (k : VariableKind) {i : Int32} (h : 0 ≤ i.toInt) :
    (slotText k i).toList = k.letters ++ Nat.toDigits 10 i.toInt.toNat := by
  have hneg : ¬ i < 0 := by
    rw [Int32.lt_iff_toInt_lt]
    exact Int.not_lt.mpr h
  cases k with
  | parameter =>
    rw [slotText, if_neg hneg, String.toList_append, toList_repr_of_nonneg h]
    rfl
  | localSlot | pinnedLocal | stackSlot | exceptionSlot =>
    rw [slotText, String.toList_append, toList_repr_of_nonneg h]
    rfl

theorem slotText_this : (slotText .parameter thisIndex).toList = ['t', 'h', 'i', 's'] := by decide

end Variable

namespace Scope

/-- the number of a variable of the table is at least zero, except for the receiver -/
theorem Numbered.index_cases {s : Scope} (h : s.Numbered) {v : Variable} (hv : v ∈ s.table) :
    (v.kind = .parameter ∧ v.index = Variable.thisIndex) ∨ 0 ≤ v.index.toInt := by
  cases hc : v.kind.counter? with
  | some c => exact .inr (h.counted v hv c hc).1
  | none =>
    have hk := VariableKind.eq_parameter hc
    rcases h.parameter v hv hk with hi | hi
    · exact .inl ⟨hk, hi⟩
    · exact .inr hi

/-- digits start with a digit, which ends any word without one -/
theorem ends_toDigits (n : Nat) : Ends Char.isDigit (Nat.toDigits 10 n) := by
  intro c hc
  exact Nat.isDigit_of_mem_toDigits (by decide) (by decide) (List.mem_of_mem_head? hc)

theorem letters_append_ne_this {k : VariableKind} {n : Nat} :
    k.letters ++ Nat.toDigits 10 n ≠ ['t', 'h', 'i', 's'] := by
  intro e
  rw [← List.append_nil ['t', 'h', 'i', 's']] at e
  have hk : Word Char.isDigit k.letters := VariableKind.word_letters (by decide) k
  have hthis : Word Char.isDigit ['t', 'h', 'i', 's'] := by decide
  have hnil : Ends Char.isDigit [] := fun c hc => absurd hc (Option.not_mem_none c)
  exact Nat.toDigits_ne_nil (hk.append_inj hthis (ends_toDigits n) hnil e).2

/-- the text of a variable without a name, by the two cases of its number -/
theorem Numbered.text_cases {s : Scope} (h : s.Numbered) {v : Variable} (hv : v ∈ s.table)
    (hn : v.name = none) :
    (v.number = (none, Variable.thisIndex) ∧ v.text.toList = ['t', 'h', 'i', 's']) ∨
    (0 ≤ v.index.toInt ∧
      v.text.toList = v.kind.letters ++ Nat.toDigits 10 v.index.toInt.toNat) := by
  have ht : v.text = Variable.slotText v.kind v.index := by
    rw [Variable.text, hn]
    rfl
  rw [ht]
  rcases h.index_cases hv with ⟨hk, hi⟩ | hi
  · refine .inl ⟨?_, ?_⟩
    · rw [Variable.number, hk, hi]
      rfl
    · rw [hk, hi]
      exact Variable.slotText_this
  · exact .inr ⟨hi, Variable.toList_slotText v.kind hi⟩

theorem Numbered.word {s : Scope} (h : s.Numbered) {v : Variable} (hv : v ∈ s.table)
    (hn : v.name = none) : Word delimiter v.text.toList := by
  rcases h.text_cases hv hn with ⟨-, ht⟩ | ⟨-, ht⟩
  · rw [ht]
    decide
  · rw [ht]
    exact (VariableKind.word_letters (by decide) _).append
      (word_toDigits (by decide) (by decide) _)

/-- Two variables of one scope without names that print alike are the same in every field. -/
theorem Numbered.eq_of_text {s : Scope} (h : s.Numbered) {v w : Variable} (hv : v ∈ s.table)
    (hw : w ∈ s.table) (nv : v.name = none) (nw : w.name = none)
    (e : v.text.toList = w.text.toList) : v = w := by
  apply h.eq_of_number hv hw
  rcases h.text_cases hv nv with ⟨iv, tv⟩ | ⟨iv, tv⟩ <;>
    rcases h.text_cases hw nw with ⟨iw, tw⟩ | ⟨iw, tw⟩ <;> rw [tv, tw] at e
  · rw [iv, iw]
  · exact absurd e.symm letters_append_ne_this
  · exact absurd e letters_append_ne_this
  · have hletters (k : VariableKind) : Word Char.isDigit k.letters :=
      VariableKind.word_letters (by decide) k
    obtain ⟨hk, hd⟩ :=
      (hletters _).append_inj (hletters _) (ends_toDigits _) (ends_toDigits _) e
    have hi : v.index.toInt.toNat = w.index.toInt.toNat :=
      toDigits_inj (by decide) (by decide) hd
    have hindex : v.index = w.index := by
      apply Int32.toInt_inj.mp
      omega
    rw [Variable.number, Variable.number, VariableKind.letters_inj hk, hindex]

/-! ## after any run -/

/-- **Texts tell variables apart.**  Take any run in which no more variables are declared in one
sequence than it has numbers; how many blocks and containers are asked for does not matter.  Two
variables of the scope without names, of whatever kinds, print alike exactly if they are the same
variable. -/
theorem text_eq_iff_id {rs : List Request}
    (hdrawn : ∀ (k : VariableKind) (c : Counter), k.counter? = some c → drawn c rs ≤ 2147483647)
    {v w : Variable} (hv : v ∈ (new.run rs).2.table) (hw : w ∈ (new.run rs).2.table)
    (nv : v.name = none) (nw : w.name = none) : v.text = w.text ↔ v.id = w.id := by
  constructor
  · intro h
    have hnumbered : (new.run rs).2.Numbered := by
      apply numbered_run
      rintro c ⟨k, hk⟩
      exact room_of_drawn_le ⟨k, hk⟩ (hdrawn k c hk)
    have e : v = w := hnumbered.eq_of_text hv hw nv nw (by rw [h])
    rw [e]
  · intro h
    have e : v = w := (positional_run rs).eq_of_id hv hw h
    rw [e]

/-- A pinned local, the first parameter and a local after them print in different ways; only a name
can make a local print like the pinned one. -/
theorem text_eq_iff_id_mixed :
    let rs : List Request :=
      [.newPinnedLocal .u8, .declareThis .object, .declareParameter 0 .i32, .newStackSlot .i32,
        .newLocal .u8, .newNamedLocal .u8 "loc0"]
    let pinned : Variable := ⟨⟨0⟩, .pinnedLocal, 0, .u8, none⟩
    let first : Variable := ⟨⟨2⟩, .parameter, 0, .i32, none⟩
    let plain : Variable := ⟨⟨4⟩, .localSlot, 1, .u8, none⟩
    let named : Variable := ⟨⟨5⟩, .localSlot, 2, .u8, some "loc0"⟩
    (∀ (k : VariableKind) (c : Counter), k.counter? = some c → drawn c rs ≤ 2147483647) ∧
    pinned.text ≠ first.text ∧ pinned.text ≠ plain.text ∧ first.text ≠ plain.text ∧
    named ∈ (new.run rs).2.table ∧ named.text = pinned.text := by
  intro rs pinned first plain named
  have hdrawn (k : VariableKind) (c : Counter) (_ : k.counter? = some c) :
      drawn c rs ≤ 2147483647 := by
    have hle : drawn c rs ≤ rs.length := List.countP_le_length
    exact Nat.le_trans hle (by decide)
  have hpinned : pinned ∈ (new.run rs).2.table := by decide
  have hfirst : first ∈ (new.run rs).2.table := by decide
  have hplain : plain ∈ (new.run rs).2.table := by decide
  have hfirst' := mt (text_eq_iff_id hdrawn hpinned hfirst rfl rfl).mp (by decide)
  have hplain' := mt (text_eq_iff_id hdrawn hpinned hplain rfl rfl).mp (by decide)
  have hboth := mt (text_eq_iff_id hdrawn hfirst hplain rfl rfl).mp (by decide)
  exact ⟨hdrawn, hfirst', hplain', hboth, by decide, by decide⟩

end Scope

end ILTree
