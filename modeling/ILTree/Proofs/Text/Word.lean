import Mathlib.Algebra.Group.Nat.Defs
import ILTree.Text.Hex
import ILTree.Vocabulary

/-!
# Words

A word is a text without any of the characters that end one.  What follows a word in a longer
text is empty or starts with such a character, so the word can be told from what follows.

* `Word.append_inj`     a word and what follows it are determined by the two together;
* `Vocabulary.append_inj`   a member of a vocabulary with texts that are no prefixes of each other
                        is read off the start of a longer text;
* `toDigits_inj`        the digits of a number determine it, in all bases up to 16;
* `word_toDigits`       digits are a word, whatever characters that are no digits end one;
* `Hex.fixed_inj`       as many hexadecimal digits as asked for determine the number up to the rest.
-/

namespace ILTree

/-- no character of the text ends a word -/
def Word (stop : Char → Bool) (xs : List Char) : Prop := ∀ c ∈ xs, stop c = false

/-- nothing, or a text that starts with a character that ends a word -/
def Ends (stop : Char → Bool) (r : List Char) : Prop := ∀ c ∈ r.head?, stop c = true

section
variable {stop : Char → Bool}

instance (xs : List Char) : Decidable (Word stop xs) :=
  List.decidableBAll (fun c => stop c = false) xs

theorem Word.append {xs ys : List Char} (hx : Word stop xs) (hy : Word stop ys) :
    Word stop (xs ++ ys) := by
  intro c hc
  rcases List.mem_append.mp hc with h | h
  · exact hx c h
  · exact hy c h

theorem ends_cons {c : Char} (r : List Char) (h : stop c = true) : Ends stop (c :: r) := by
  intro d hd
  obtain rfl : c = d := Option.some.inj hd
  exact h

/-- A word is read off a longer text up to the first character that ends it. -/
theorem Word.append_inj {xs ys r s : List Char} (hx : Word stop xs) (hy : Word stop ys)
    (hr : Ends stop r) (hs : Ends stop s) (h : xs ++ r = ys ++ s) : xs = ys ∧ r = s := by
  induction xs generalizing ys with
  | nil =>
    cases ys with
    | nil => exact ⟨rfl, h⟩
    | cons y ys =>
      rw [List.nil_append] at h
      have hend := hr y (by rw [h]; rfl)
      rw [hy y List.mem_cons_self] at hend
      cases hend
  | cons x xs ih =>
    cases ys with
    | nil =>
      rw [List.nil_append] at h
      have hend := hs x (by rw [← h]; rfl)
      rw [hx x List.mem_cons_self] at hend
      cases hend
    | cons y ys =>
      obtain ⟨rfl, ht⟩ := List.cons.inj h
      obtain ⟨rfl, rfl⟩ := ih (fun c hc => hx c (List.mem_cons_of_mem _ hc))
        (fun c hc => hy c (List.mem_cons_of_mem _ hc)) ht
      exact ⟨rfl, rfl⟩

end

/-! ## vocabularies -/

namespace Vocabulary
variable {α : Type} [Vocabulary α] {f : α → List Char} {x y : α} {r s : List Char}

theorem append_inj (hfree : ∀ x ∈ members (α := α), ∀ y ∈ members (α := α), f x <+: f y → x = y)
    (h : f x ++ r = f y ++ s) : x = y ∧ r = s := by
  have hx : f x <+: f y ++ s := by
    rw [← h]
    exact List.prefix_append _ _
  have hxy : x = y := by
    rcases List.prefix_or_prefix_of_prefix hx (List.prefix_append _ _) with hp | hp
    · exact hfree x (complete x) y (complete y) hp
    · exact (hfree y (complete y) x (complete x) hp).symm
  rw [hxy] at h
  exact ⟨hxy, List.append_cancel_left h⟩

theorem word_append_inj {stop : Char → Bool} (hword : ∀ x ∈ members (α := α), Word stop (f x))
    (hinj : ∀ x ∈ members (α := α), ∀ y ∈ members (α := α), f x = f y → x = y)
    (hr : Ends stop r) (hs : Ends stop s) (h : f x ++ r = f y ++ s) : x = y ∧ r = s := by
  obtain ⟨hf, hrs⟩ := (hword x (complete x)).append_inj (hword y (complete y)) hr hs h
  exact ⟨hinj x (complete x) y (complete y) hf, hrs⟩

end Vocabulary

/-! ## numbers -/

theorem digitChar_inj {n m : Nat} (hn : n < 16) (hm : m < 16)
    (h : Nat.digitChar n = Nat.digitChar m) : n = m := by
  have key : ∀ n < 16, ∀ m < 16, Nat.digitChar n = Nat.digitChar m → n = m := by decide
  exact key n hn m hm h

theorem mem_toDigits {b n : Nat} (hb : 1 < b) {c : Char} (h : c ∈ Nat.toDigits b n) :
    ∃ d < b, c = Nat.digitChar d := by
  induction n using Nat.strongRecOn with
  | ind n ih =>
    rw [Nat.toDigits_eq_if hb] at h
    split at h
    next hlt => exact ⟨n, hlt, List.mem_singleton.mp h⟩
    next hge =>
      rcases List.mem_append.mp h with h | h
      · exact ih (n / b) (Nat.div_lt_self (by omega) hb) h
      · exact ⟨n % b, Nat.mod_lt n (by omega), List.mem_singleton.mp h⟩

theorem word_toDigits {stop : Char → Bool} {b : Nat} (hb : 1 < b)
    (h : ∀ d < b, stop (Nat.digitChar d) = false) (n : Nat) : Word stop (Nat.toDigits b n) := by
  intro c hc
  obtain ⟨d, hd, rfl⟩ := mem_toDigits hb hc
  exact h d hd

theorem not_mem_toDigits {c : Char} (h : c.isDigit = false) (n : Nat) :
    c ∉ Nat.toDigits 10 n := by
  intro hc
  rw [Nat.isDigit_of_mem_toDigits (by decide) (by decide) hc] at h
  cases h

theorem toDigits_append_ne_cons {c : Char} (h : c.isDigit = false) (n : Nat) (x y : List Char) :
    Nat.toDigits 10 n ++ x ≠ c :: y := by
  intro e
  cases hd : Nat.toDigits 10 n with
  | nil => exact Nat.toDigits_ne_nil hd
  | cons d ds =>
    rw [hd] at e
    apply not_mem_toDigits h n
    rw [hd, (List.cons.inj e).1]
    exact List.mem_cons_self

theorem toDigits_inj {b n m : Nat} (hb : 1 < b) (hb' : b ≤ 16)
    (h : Nat.toDigits b n = Nat.toDigits b m) : n = m := by
  induction n using Nat.strongRecOn generalizing m with
  | ind n ih =>
    rw [Nat.toDigits_eq_if hb (n := n), Nat.toDigits_eq_if hb (n := m)] at h
    split at h <;> split at h
    next hn hm => exact digitChar_inj (by omega) (by omega) (List.cons.inj h).1
    next hn hm =>
      -- one digit on the left, at least two on the right
      have hl := congrArg List.length h
      have hp := Nat.length_toDigits_pos (b := b) (n := m / b)
      simp only [List.length_append, List.length_singleton] at hl
      omega
    next hn hm =>
      have hl := congrArg List.length h
      have hp := Nat.length_toDigits_pos (b := b) (n := n / b)
      simp only [List.length_append, List.length_singleton] at hl
      omega
    next hn hm =>
      obtain ⟨hq, hr⟩ := List.append_inj' h rfl
      have e : n / b = m / b := ih _ (Nat.div_lt_self (by omega) hb) hq
      have hnb := Nat.mod_lt n (show 0 < b by omega)
      have hmb := Nat.mod_lt m (show 0 < b by omega)
      have e' : n % b = m % b := digitChar_inj (by omega) (by omega) (List.cons.inj hr).1
      rw [← Nat.div_add_mod n b, ← Nat.div_add_mod m b, e, e']

theorem Hex.fixed_inj {w n m : Nat} (h : Hex.fixed w n = Hex.fixed w m) :
    n % 16 ^ w = m % 16 ^ w := by
  induction w generalizing n m with
  | zero => rw [Nat.pow_zero, Nat.mod_one, Nat.mod_one]
  | succ w ih =>
    obtain ⟨hq, hr⟩ := List.append_inj' h rfl
    have e : n % 16 = m % 16 :=
      digitChar_inj (Nat.mod_lt n (by omega)) (Nat.mod_lt m (by omega)) (List.cons.inj hr).1
    rw [Nat.pow_succ, Nat.mul_comm, Nat.mod_mul, Nat.mod_mul, e, ih hq]

end ILTree
