import Mathlib.Logic.ExistsUnique
import ILTree.Proofs.Text.Types

/-!
# Tokens, their parts and their order

The number of a token is its table times `2 ^ 24` plus its row.  So numbers are in the order of
tables first and of rows second.  The texts have as many digits for every token, so they are in the
same order.

* `toNat_raw_ofParts`, `toNat_table`, `toNat_row`   packing and both parts as arithmetic;
* `ofParts_self`, `table_ofParts`, `toNat_row_ofParts`   packing and taking apart are inverse;
* `lt_iff_parts`          the order of numbers is that of the pairs of parts;
* `Hex.fixed_lt`          numbers that fit are in the order of their hexadecimal digits;
* `text_lt_text_iff`      tokens are in the order of their texts;
* `FieldRef.ofToken_eq_ok`, `FieldRef.ofToken_eq_error`   which tokens name a field;
* `table_and_row`         all of it.
-/

namespace ILTree

/-! ## hexadecimal digits in order -/

namespace Hex

theorem digitChar_lt {n m : Nat} (hlt : n < m) (hm : m < 16) : n.digitChar < m.digitChar := by
  have key : ∀ m < 16, ∀ n < m, n.digitChar < m.digitChar := by decide
  exact key m hm n hlt

/-- What follows two texts of one length does not change their order. -/
theorem append_lt_append {xs ys : List Char} (hlength : xs.length = ys.length) (h : xs < ys)
    (r s : List Char) : xs ++ r < ys ++ s := by
  induction xs generalizing ys with
  | nil =>
    obtain rfl : ys = [] := List.length_eq_zero_iff.mp hlength.symm
    exact absurd h (List.lt_irrefl [])
  | cons x xs ih =>
    cases ys with
    | nil => cases hlength
    | cons y ys =>
      show x :: (xs ++ r) < y :: (ys ++ s)
      rw [List.cons_lt_cons_iff]
      rcases List.cons_lt_cons_iff.mp h with hhead | ⟨e, htail⟩
      · exact .inl hhead
      · exact .inr ⟨e, ih (Nat.succ.inj hlength) htail⟩

/-- By induction on the width: the digits but the last are those of the quotient, and the last one
decides only if the quotients are equal. -/
theorem fixed_lt {w n m : Nat} (hlt : n < m) (hm : m < 16 ^ w) : fixed w n < fixed w m := by
  induction w generalizing n m with
  | zero =>
    rw [Nat.pow_zero] at hm
    omega
  | succ w ih =>
    rw [Nat.pow_succ] at hm
    show fixed w (n / 16) ++ [(n % 16).digitChar] < fixed w (m / 16) ++ [(m % 16).digitChar]
    by_cases hquotient : n / 16 = m / 16
    · have hdigit : (n % 16).digitChar < (m % 16).digitChar :=
        digitChar_lt (by omega) (Nat.mod_lt m (by omega))
      rw [hquotient]
      apply List.append_left_lt
      exact List.cons_lt_cons_iff.mpr (.inl hdigit)
    · have hdigits : fixed w (n / 16) < fixed w (m / 16) := ih (by omega) (by omega)
      have hlength : (fixed w (n / 16)).length = (fixed w (m / 16)).length := by
        rw [length_fixed, length_fixed]
      exact append_lt_append hlength hdigits _ _

end Hex

namespace Token

/-! ## packing -/

theorem toNat_and_rowBits (n : UInt32) : (n &&& 0x00FFFFFF).toNat = n.toNat % 2 ^ 24 := by
  rw [UInt32.toNat_and]
  exact Nat.and_two_pow_sub_one_eq_mod n.toNat 24

theorem toNat_raw_ofParts (table : UInt8) (row : UInt32) :
    (ofParts table row).raw.toNat = table.toNat * 2 ^ 24 + row.toNat % 2 ^ 24 := by
  have hrow : row.toNat % 2 ^ 24 < 2 ^ 24 := Nat.mod_lt _ (by omega)
  have htable : (table.toUInt32 <<< 24).toNat = table.toNat <<< 24 := by
    have hlt := table.toNat_lt
    rw [UInt32.toNat_shiftLeft, UInt8.toNat_toUInt32]
    show table.toNat <<< 24 % 2 ^ 32 = table.toNat <<< 24
    apply Nat.mod_eq_of_lt
    rw [Nat.shiftLeft_eq]
    omega
  show ((table.toUInt32 <<< 24) ||| (row &&& 0x00FFFFFF)).toNat = _
  -- no bit is set in both, so that joining them is adding them
  rw [UInt32.toNat_or, htable, toNat_and_rowBits, ← Nat.shiftLeft_add_eq_or_of_lt hrow,
    Nat.shiftLeft_eq]

theorem toNat_table (t : Token) : t.table.toNat = t.raw.toNat / 2 ^ 24 := by
  have hlt := t.raw.toNat_lt
  rw [table, UInt32.toNat_toUInt8, UInt32.toNat_shiftRight, Nat.shiftRight_eq_div_pow]
  show t.raw.toNat / 2 ^ 24 % 2 ^ 8 = t.raw.toNat / 2 ^ 24
  omega

theorem toNat_row (t : Token) : t.row.toNat = t.raw.toNat % 2 ^ 24 := toNat_and_rowBits t.raw

theorem ext_raw {t u : Token} (h : t.raw.toNat = u.raw.toNat) : t = u :=
  congrArg mk (UInt32.toNat_inj.mp h)

theorem ofParts_self (t : Token) : ofParts t.table t.row = t := by
  apply ext_raw
  rw [toNat_raw_ofParts, toNat_table, toNat_row]
  omega

theorem table_ofParts (table : UInt8) (row : UInt32) : (ofParts table row).table = table := by
  apply UInt8.toNat_inj.mp
  rw [toNat_table, toNat_raw_ofParts]
  omega

theorem toNat_row_ofParts (table : UInt8) (row : UInt32) :
    (ofParts table row).row.toNat = row.toNat % 2 ^ 24 := by
  rw [toNat_row, toNat_raw_ofParts]
  omega

theorem row_lt (t : Token) : t.row.toNat < 2 ^ 24 := by
  rw [toNat_row]
  exact Nat.mod_lt _ (by omega)

/-- A table and a row that fits are the parts of one token. -/
theorem existsUnique_parts (table : UInt8) {row : UInt32} (hrow : row.toNat < 2 ^ 24) :
    ∃! t : Token, t.table = table ∧ t.row = row := by
  refine ⟨ofParts table row, ⟨table_ofParts table row, ?_⟩, ?_⟩
  · apply UInt32.toNat_inj.mp
    rw [toNat_row_ofParts, Nat.mod_eq_of_lt hrow]
  · rintro t ⟨rfl, rfl⟩
    exact t.ofParts_self.symm

/-! ## order -/

theorem lt_iff_parts (a b : Token) :
    a < b ↔ a.table < b.table ∨ a.table = b.table ∧ a.row < b.row := by
  rw [lt_def, UInt32.lt_iff_toNat_lt, UInt8.lt_iff_toNat_lt, ← UInt8.toNat_inj,
    UInt32.lt_iff_toNat_lt, toNat_table, toNat_table, toNat_row, toNat_row]
  omega

theorem text_lt_text {a b : Token} (h : a < b) : a.text < b.text := by
  have hlt : a.raw.toNat < b.raw.toNat := UInt32.lt_iff_toNat_lt.mp h
  have hdigits : Hex.fixed 8 a.raw.toNat < Hex.fixed 8 b.raw.toNat :=
    Hex.fixed_lt hlt b.raw.toNat_lt
  show a.text.toList < b.text.toList
  rw [toList_text, toList_text]
  show ['0', 'x'] ++ Hex.fixed 8 a.raw.toNat < ['0', 'x'] ++ Hex.fixed 8 b.raw.toNat
  exact List.append_left_lt hdigits

theorem text_inj {a b : Token} (h : a.text = b.text) : a = b :=
  (text_append_inj (x := []) (y := []) (by rw [h])).1

theorem text_lt_text_iff (a b : Token) : a.text < b.text ↔ a < b := by
  constructor
  · intro h
    rcases Nat.lt_trichotomy a.raw.toNat b.raw.toNat with hlt | heq | hgt
    · exact UInt32.lt_iff_toNat_lt.mpr hlt
    · rw [ext_raw heq] at h
      exact absurd h (String.lt_irrefl _)
    · have hba : b < a := UInt32.lt_iff_toNat_lt.mpr hgt
      exact absurd h (String.lt_asymm (text_lt_text hba))
  · exact text_lt_text

/-! ## fields -/

theorem isFieldLike_iff (t : Token) :
    t.isFieldLike = true ↔ ∃ row, t = ofParts 0x04 row ∨ t = ofParts 0x0A row := by
  rw [isFieldLike, Bool.or_eq_true, beq_iff_eq, beq_iff_eq]
  constructor
  · rintro (h | h)
    · refine ⟨t.row, .inl ?_⟩
      rw [← show t.table = 0x04 from h, ofParts_self]
    · refine ⟨t.row, .inr ?_⟩
      rw [← show t.table = 0x0A from h, ofParts_self]
  · rintro ⟨row, rfl | rfl⟩
    · exact .inl (table_ofParts 0x04 row)
    · exact .inr (table_ofParts 0x0A row)

end Token

namespace FieldRef

theorem ofToken_eq_ok {t : Token} {f : FieldRef} :
    ofToken t = .ok f ↔ t.isFieldLike = true ∧ f.token = t := by
  unfold ofToken
  by_cases h : t.isFieldLike = true
  · rw [if_pos h]
    constructor
    · rintro ⟨⟩
      exact ⟨h, rfl⟩
    · rintro ⟨-, rfl⟩
      rfl
  · rw [if_neg h]
    exact ⟨fun e => (nomatch e), fun e => absurd e.1 h⟩

theorem ofToken_eq_error {t : Token} {fault : Fault} :
    ofToken t = .error fault ↔ ¬ t.isFieldLike = true ∧ fault = .notAField t := by
  unfold ofToken
  by_cases h : t.isFieldLike = true
  · rw [if_pos h]
    exact ⟨fun e => (nomatch e), fun e => absurd h e.1⟩
  · rw [if_neg h]
    constructor
    · rintro ⟨⟩
      exact ⟨h, rfl⟩
    · rintro ⟨-, rfl⟩
      rfl

end FieldRef

namespace Token

/-- **A token is a table and a row.**  Packing its parts gives the token back, and packing any table
and any row gives a token of this table and of the row up to multiples of `2 ^ 24`; each table and
each row below `2 ^ 24` are the parts of one token.  Tokens are in the order of their tables, those
of one table in the order of their rows, and all in the order of their texts, which tell them apart.
A token can name a field exactly if its table is one of two; what names the field then is the token
itself, and any other token is refused by the fault that holds it. -/
theorem table_and_row :
    (∀ t : Token, ofParts t.table t.row = t) ∧
    (∀ (table : UInt8) (row : UInt32), (ofParts table row).table = table ∧
      (ofParts table row).row.toNat = row.toNat % 2 ^ 24) ∧
    ((∀ t : Token, t.row.toNat < 2 ^ 24) ∧
      ∀ (table : UInt8) (row : UInt32), row.toNat < 2 ^ 24 →
        ∃! t : Token, t.table = table ∧ t.row = row) ∧
    (∀ a b : Token, (a < b ↔ a.table < b.table ∨ a.table = b.table ∧ a.row < b.row) ∧
      (a < b ↔ a.text < b.text) ∧ (a.text = b.text ↔ a = b)) ∧
    (∀ (t : Token) (f : FieldRef), FieldRef.ofToken t = .ok f ↔
      (∃ row, t = ofParts 0x04 row ∨ t = ofParts 0x0A row) ∧ f.token = t) ∧
    (∀ (t : Token) (fault : Fault), FieldRef.ofToken t = .error fault ↔
      (¬ ∃ row, t = ofParts 0x04 row ∨ t = ofParts 0x0A row) ∧ fault = .notAField t) ∧
    (∀ (t u : Token) (f g : FieldRef), FieldRef.ofToken t = .ok f → FieldRef.ofToken u = .ok g →
      (f = g ↔ t = u)) := by
  refine ⟨ofParts_self, fun table row => ⟨table_ofParts table row, toNat_row_ofParts table row⟩,
    ⟨row_lt, fun table row hrow => existsUnique_parts table hrow⟩, fun a b => ?_, fun t f => ?_,
    fun t fault => ?_, fun t u f g hf hg => ?_⟩
  · exact ⟨lt_iff_parts a b, (text_lt_text_iff a b).symm, text_inj, congrArg text⟩
  · rw [← isFieldLike_iff, FieldRef.ofToken_eq_ok]
  · rw [← isFieldLike_iff, FieldRef.ofToken_eq_error]
  · obtain ⟨-, rfl⟩ := FieldRef.ofToken_eq_ok.mp hf
    obtain ⟨-, rfl⟩ := FieldRef.ofToken_eq_ok.mp hg
    constructor
    · exact congrArg FieldRef.token
    · intro h
      cases f
      cases g
      exact congrArg FieldRef.mk h

/-- A row with one bit too many, packed with a table of high number and with one of fields: the
token of the high table comes later, and only the other one can name a field. -/
theorem table_and_row_wide :
    let row : UInt32 := 0x01000002
    let t : Token := ofParts 0x0A row
    let u : Token := ofParts 0xFF row
    t.raw = 0x0A000002 ∧ t.row.toNat = 2 ∧ u.table = 0xFF ∧
    (∃! v : Token, v.table = 0x0A ∧ v.row = 2) ∧
    t < u ∧ t.text < u.text ∧ t.text ≠ u.text ∧
    FieldRef.ofToken t = .ok ⟨t⟩ ∧ FieldRef.ofToken u = .error (.notAField u) := by
  intro row t u
  obtain ⟨-, hparts, ⟨-, hunique⟩, horder, hok, herror, -⟩ := table_and_row
  obtain ⟨hlt, htext, heq⟩ := horder t u
  have htu : t < u := hlt.mpr (.inl (by decide))
  have hne : t ≠ u := by decide
  have hrow : t.row.toNat = 2 := by rw [(hparts 0x0A row).2]; decide
  refine ⟨by decide, hrow, (hparts 0xFF row).1, hunique 0x0A 2 (by decide), htu,
    htext.mp htu, mt heq.mp hne, (hok t ⟨t⟩).mpr ⟨⟨row, .inr rfl⟩, rfl⟩,
    (herror u (.notAField u)).mpr ⟨?_, rfl⟩⟩
  rintro ⟨r, h | h⟩
  · have htable := congrArg table h
    rw [(hparts 0x04 r).1] at htable
    exact absurd htable (by decide)
  · have htable := congrArg table h
    rw [(hparts 0x0A r).1] at htable
    exact absurd htable (by decide)

end Token

end ILTree
