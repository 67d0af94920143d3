import ILTree.Proofs.Text.Word
import ILTree.Text.Quoted

/-!
# Quoted texts are told apart

* `Quoted.escape_cases`      a character stands for itself, or after a backslash for a mark of its
                             own, or there by its number;
* `Quoted.escape_append_inj` the escape of a character ends by itself;
* `Quoted.text_append_inj`   a quoted text and what follows it are determined by the two together.
-/

namespace ILTree.Quoted

/-- the characters with a mark of their own after the backslash -/
def marks : List (Char × Char) :=
  [('\x00', '0'), ('\t', 't'), ('\n', 'n'), ('\r', 'r'), ('"', '"'), ('\\', '\\')]

theorem escape_cases (c : Char) :
    (escape c = [c] ∧ c ≠ '"' ∧ c ≠ '\\') ∨
    (∃ m, (c, m) ∈ marks ∧ escape c = ['\\', m]) ∨
    escape c = byNumber c := by
  unfold escape
  split
  case h_7 hquote hback =>
    split
    · exact .inr (.inr rfl)
    · exact .inl ⟨rfl, hquote, hback⟩
  all_goals exact .inr (.inl ⟨_, by decide, rfl⟩)

theorem mark_inj {c d m : Char} (hc : (c, m) ∈ marks) (hd : (d, m) ∈ marks) : c = d := by
  have key : ∀ p ∈ marks, ∀ q ∈ marks, p.2 = q.2 → p.1 = q.1 := by decide
  exact key _ hc _ hd rfl

theorem ne_mark {c m : Char} (h : (c, m) ∈ marks) : m ≠ 'u' := by
  have key : ∀ p ∈ marks, p.2 ≠ 'u' := by decide
  exact key _ h

theorem byNumber_append_inj {c d : Char} {x y : List Char}
    (h : byNumber c ++ x = byNumber d ++ y) : c = d ∧ x = y := by
  have hword (e : Char) : Word (· == '\x7d') (Hex.short e.toNat) :=
    word_toDigits (by decide) (by decide) _
  have hends (z : List Char) : Ends (· == '\x7d') ('\x7d' :: z) := ends_cons z rfl
  simp only [byNumber, List.append_assoc, List.append_cancel_left_eq] at h
  obtain ⟨hn, ht⟩ := (hword c).append_inj (hword d) (hends x) (hends y) h
  have e : c.toNat = d.toNat := toDigits_inj (by decide) (by decide) hn
  exact ⟨Char.toNat_inj.mp e, (List.cons.inj ht).2⟩

theorem escape_append_inj {c d : Char} {x y : List Char} (h : escape c ++ x = escape d ++ y) :
    c = d ∧ x = y := by
  obtain ⟨ec, -, hc⟩ | ⟨m, hm, ec⟩ | ec := escape_cases c <;>
    obtain ⟨ed, -, hd⟩ | ⟨n, hn, ed⟩ | ed := escape_cases d <;> rw [ec, ed] at h
  · exact List.cons.inj h
  · exact absurd (List.cons.inj h).1 hc
  · exact absurd (List.cons.inj h).1 hc
  · exact absurd (List.cons.inj h).1.symm hd
  · obtain ⟨rfl, ht⟩ := List.cons.inj (List.cons.inj h).2
    exact ⟨mark_inj hm hn, ht⟩
  · exact absurd (List.cons.inj (List.cons.inj h).2).1 (ne_mark hm)
  · exact absurd (List.cons.inj h).1.symm hd
  · exact absurd (List.cons.inj (List.cons.inj h).2).1.symm (ne_mark hn)
  · exact byNumber_append_inj h

/-- no escape starts with the quote that ends the text -/
theorem escape_append_ne_quote (c : Char) (x r : List Char) : escape c ++ x ≠ '"' :: r := by
  intro h
  obtain ⟨e, hc, -⟩ | ⟨m, -, e⟩ | e := escape_cases c <;> rw [e] at h
  · exact hc (List.cons.inj h).1
  · exact absurd (List.cons.inj h).1 (by decide)
  · exact absurd (List.cons.inj h).1 (by decide)

theorem encode_cons (c : Char) (cs : List Char) : encode (c :: cs) = escape c ++ encode cs :=
  List.flatMap_cons

theorem encode_append_inj {cs ds r s : List Char}
    (h : encode cs ++ '"' :: r = encode ds ++ '"' :: s) : cs = ds ∧ r = s := by
  induction cs generalizing ds with
  | nil =>
    cases ds with
    | nil => exact ⟨rfl, (List.cons.inj h).2⟩
    | cons d ds =>
      rw [encode_cons, List.append_assoc] at h
      exact absurd h.symm (escape_append_ne_quote d _ _)
  | cons c cs ih =>
    cases ds with
    | nil =>
      rw [encode_cons, List.append_assoc] at h
      exact absurd h (escape_append_ne_quote c _ _)
    | cons d ds =>
      rw [encode_cons, encode_cons, List.append_assoc, List.append_assoc] at h
      obtain ⟨rfl, ht⟩ := escape_append_inj h
      obtain ⟨rfl, hr⟩ := ih ht
      exact ⟨rfl, hr⟩

theorem toList_text (s : String) : (text s).toList = '"' :: (encode s.toList ++ ['"']) :=
  String.toList_ofList

/-- A quoted text ends by itself: what it quotes can be told, whatever follows. -/
theorem text_append_inj {s t : String} {x y : List Char}
    (h : (text s).toList ++ x = (text t).toList ++ y) : s = t ∧ x = y := by
  rw [toList_text, toList_text, List.cons_append, List.cons_append, List.append_assoc,
    List.append_assoc] at h
  obtain ⟨hs, hx⟩ := encode_append_inj (List.cons.inj h).2
  exact ⟨String.toList_inj.mp hs, hx⟩

end ILTree.Quoted
