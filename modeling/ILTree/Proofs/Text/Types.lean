import ILTree.Proofs.Text.Word
import ILTree.Ty

/-!
# Types are told apart by their texts, but for two differences

The text of a type is the name of its core, then a suffix for each array, pointer or reference
around it.  A value type prints like a class type, and an array without dimensions like one with
a single dimension; nothing else is lost.

* `Token.text_append_inj`   a token and what follows it are determined by the two together;
* `Ty.collapse`             both differences taken out, at every depth (`Ty.text_collapse`);
* `Ty.toList_text`          the core, then the suffix;
* `Ty.text_append_inj`      a type text determines the collapsed type, if what follows it is empty
                            or starts with a parenthesis;
* `Ty.text_eq_iff_collapse`   so two types print alike exactly if they are equal when collapsed.
-/

namespace ILTree

/-! ## tokens and references -/

namespace Token

theorem toList_text (t : Token) : t.text.toList = '0' :: 'x' :: Hex.fixed 8 t.raw.toNat := by
  rw [text, String.toList_append]
  exact congrArg ('0' :: 'x' :: ·) String.toList_ofList

theorem text_append_inj {t u : Token} {x y : List Char}
    (h : t.text.toList ++ x = u.text.toList ++ y) : t = u ∧ x = y := by
  have hl : t.text.toList.length = u.text.toList.length := by
    simp only [toList_text, List.length_cons, Hex.length_fixed]
  obtain ⟨ht, hx⟩ := List.append_inj h hl
  rw [toList_text, toList_text] at ht
  have hm := Hex.fixed_inj (List.cons.inj (List.cons.inj ht).2).2
  have hlt := t.raw.toNat_lt
  have hlu := u.raw.toNat_lt
  have e : t.raw = u.raw := by
    apply UInt32.toNat_inj.mp
    omega
  exact ⟨congrArg mk e, hx⟩

/-- a token inside the parentheses of a word -/
theorem inside_append_inj (word : String) {t u : Token} {x y : List Char}
    (h : (word ++ t.text ++ ")").toList ++ x = (word ++ u.text ++ ")").toList ++ y) :
    t = u ∧ x = y := by
  simp only [String.toList_append, List.append_assoc, List.append_cancel_left_eq] at h
  obtain ⟨ht, hx⟩ := text_append_inj h
  exact ⟨ht, List.append_cancel_left hx⟩

end Token

theorem TypeRef.text_append_inj {r s : TypeRef} {x y : List Char}
    (h : r.text.toList ++ x = s.text.toList ++ y) : r = s ∧ x = y := by
  obtain ⟨ht, hx⟩ := Token.inside_append_inj "type(" h
  exact ⟨congrArg TypeRef.mk ht, hx⟩

theorem MethodRef.text_append_inj {m n : MethodRef} {x y : List Char}
    (h : m.text.toList ++ x = n.text.toList ++ y) : m = n ∧ x = y := by
  obtain ⟨ht, hx⟩ := Token.inside_append_inj "method(" h
  exact ⟨congrArg MethodRef.mk ht, hx⟩

theorem FieldRef.text_append_inj {f g : FieldRef} {x y : List Char}
    (h : f.text.toList ++ x = g.text.toList ++ y) : f = g ∧ x = y := by
  obtain ⟨ht, hx⟩ := Token.inside_append_inj "field(" h
  exact ⟨congrArg FieldRef.mk ht, hx⟩

namespace Ty

/-! ## what the text leaves out -/

/-- value types as class types, arrays of no dimension as arrays of one, at every depth -/
def collapse : Ty → Ty
  | valueType r => classType r
  | array t rank => array t.collapse (if rank = 0 then 1 else rank)
  | pointer t => pointer t.collapse
  | byRef t => byRef t.collapse
  | t => t

theorem brackets_collapse (rank : UInt32) :
    brackets (if rank = 0 then 1 else rank) = brackets rank := by
  split
  next h => rw [h]; rfl
  next => rfl

theorem text_collapse (t : Ty) : t.collapse.text = t.text := by
  induction t with
  | array t rank ih => rw [collapse, text, text, ih, brackets_collapse]
  | pointer t ih => rw [collapse, text, text, ih]
  | byRef t ih => rw [collapse, text, text, ih]
  | _ => rfl

/-! ## core and suffix -/

/-- the type that arrays, pointers and references are wrapped around -/
def core : Ty → Ty
  | array t _ => t.core
  | pointer t => t.core
  | byRef t => t.core
  | t => t

/-- what the arrays, pointers and references around the core print, from the inside out -/
def suffix : Ty → List Char
  | array t rank => t.suffix ++ (brackets rank).toList
  | pointer t => t.suffix ++ ['*']
  | byRef t => t.suffix ++ ['&']
  | _ => []

theorem toList_text (t : Ty) : t.text.toList = t.core.text.toList ++ t.suffix := by
  induction t with
  | array t rank ih => rw [text, core, suffix, String.toList_append, ih, List.append_assoc]
  | pointer t ih =>
    rw [text, core, suffix, String.toList_append, ih, List.append_assoc]
    rfl
  | byRef t ih =>
    rw [text, core, suffix, String.toList_append, ih, List.append_assoc]
    rfl
  | _ => exact (List.append_nil _).symm

/-- a core without a reference into metadata -/
def IsNamed (t : Ty) : Prop :=
  t ∈ plain ∨ (∃ n, t = genericParam n) ∨ ∃ n, t = methodGenericParam n

theorem core_cases (t : Ty) :
    t.core.IsNamed ∨ ∃ r, t.core = classType r ∨ t.core = valueType r := by
  induction t with
  | array t rank ih => exact ih
  | pointer t ih => exact ih
  | byRef t ih => exact ih
  | classType r => exact .inr ⟨r, .inl rfl⟩
  | valueType r => exact .inr ⟨r, .inr rfl⟩
  | genericParam n => exact .inl (.inr (.inl ⟨n, rfl⟩))
  | methodGenericParam n => exact .inl (.inr (.inr ⟨n, rfl⟩))
  | _ => exact .inl (.inl (by decide))

/-! ## cores are told apart -/

/-- what a suffix, a token in parentheses or the text after a type starts with -/
def endsName (c : Char) : Bool := c == '[' || c == '*' || c == '&' || c == '('

theorem toList_genericParam (n : UInt32) :
    (genericParam n).text.toList = '!' :: Nat.toDigits 10 n.toNat := by
  rw [text, String.toList_append, Nat.toList_repr]
  rfl

theorem toList_methodGenericParam (n : UInt32) :
    (methodGenericParam n).text.toList = '!' :: '!' :: Nat.toDigits 10 n.toNat := by
  rw [text, String.toList_append, Nat.toList_repr]
  rfl

theorem word_digits (n : Nat) : Word endsName (Nat.toDigits 10 n) :=
  word_toDigits (by decide) (by decide) n

theorem IsNamed.word {t : Ty} (h : t.IsNamed) : Word endsName t.text.toList := by
  rcases h with h | ⟨n, rfl⟩ | ⟨n, rfl⟩
  · have key : ∀ t ∈ plain, Word endsName t.text.toList := by decide
    exact key t h
  · rw [toList_genericParam]
    exact Word.append (show Word endsName ['!'] by decide) (word_digits _)
  · rw [toList_methodGenericParam]
    exact Word.append (show Word endsName ['!', '!'] by decide) (word_digits _)

theorem text_ne_bang {t : Ty} (ht : t ∈ plain) (cs : List Char) : t.text.toList ≠ '!' :: cs := by
  have key : ∀ t ∈ plain, t.text.toList.head? ≠ some '!' := by decide
  intro e
  apply key t ht
  rw [e, List.head?_cons]

theorem IsNamed.text_inj {t u : Ty} (ht : t.IsNamed) (hu : u.IsNamed)
    (h : t.text.toList = u.text.toList) : t = u := by
  have hplain : ∀ t ∈ plain, ∀ u ∈ plain, t.text.toList = u.text.toList → t = u := by decide
  rcases ht with ht | ⟨n, rfl⟩ | ⟨n, rfl⟩ <;> rcases hu with hu | ⟨m, rfl⟩ | ⟨m, rfl⟩ <;>
    try simp only [toList_genericParam, toList_methodGenericParam, List.cons.injEq, true_and] at h
  · exact hplain t ht u hu h
  · exact absurd h (text_ne_bang ht _)
  · exact absurd h (text_ne_bang ht _)
  · exact absurd h.symm (text_ne_bang hu _)
  · have e := toDigits_inj (by decide) (by decide) h
    rw [UInt32.toNat_inj.mp e]
  · exact absurd (by rw [h]; exact List.mem_cons_self) (not_mem_toDigits (by decide) n.toNat)
  · exact absurd h.symm (text_ne_bang hu _)
  · exact absurd (by rw [← h]; exact List.mem_cons_self) (not_mem_toDigits (by decide) m.toNat)
  · have e := toDigits_inj (by decide) (by decide) h
    rw [UInt32.toNat_inj.mp e]

/-- no name is the word that opens a reference into metadata -/
theorem IsNamed.text_ne {t : Ty} (h : t.IsNamed) : t.text.toList ≠ ['t', 'y', 'p', 'e'] := by
  rcases h with h | ⟨n, rfl⟩ | ⟨n, rfl⟩
  · have key : ∀ t ∈ plain, t.text.toList ≠ ['t', 'y', 'p', 'e'] := by decide
    exact key t h
  · rw [toList_genericParam]
    exact fun e => absurd (List.cons.inj e).1 (by decide)
  · rw [toList_methodGenericParam]
    exact fun e => absurd (List.cons.inj e).1 (by decide)

theorem IsNamed.append_ne_ref {t : Ty} (h : t.IsNamed) (r : TypeRef) {x y : List Char}
    (hx : Ends endsName x) : t.text.toList ++ x ≠ r.text.toList ++ y := by
  intro e
  have hr : r.text.toList ++ y =
      ['t', 'y', 'p', 'e'] ++ '(' :: (r.token.text.toList ++ (')' :: y)) := by
    have hopen : "type(".toList = ['t', 'y', 'p', 'e', '('] := by decide
    have hclose : ")".toList = [')'] := by decide
    simp only [TypeRef.text, String.toList_append, hopen, hclose, List.append_assoc,
      List.cons_append, List.nil_append]
  rw [hr] at e
  exact h.text_ne (h.word.append_inj (by decide) hx (ends_cons _ rfl) e).1

theorem toList_ref_text {t : Ty} {r : TypeRef} (h : t = classType r ∨ t = valueType r) :
    t.text.toList = r.text.toList ∧ t.collapse = classType r := by
  rcases h with rfl | rfl
  · exact ⟨rfl, rfl⟩
  · exact ⟨rfl, rfl⟩

theorem core_append_inj {t u : Ty} {x y : List Char} (hx : Ends endsName x) (hy : Ends endsName y)
    (h : t.core.text.toList ++ x = u.core.text.toList ++ y) :
    t.core.collapse = u.core.collapse ∧ x = y := by
  rcases core_cases t with ht | ⟨r, ht⟩ <;> rcases core_cases u with hu | ⟨s, hu⟩
  · obtain ⟨e, hxy⟩ := ht.word.append_inj hu.word hx hy h
    exact ⟨congrArg collapse (ht.text_inj hu e), hxy⟩
  · rw [(toList_ref_text hu).1] at h
    exact absurd h (ht.append_ne_ref s hx)
  · rw [(toList_ref_text ht).1] at h
    exact absurd h.symm (hu.append_ne_ref r hy)
  · rw [(toList_ref_text ht).1, (toList_ref_text hu).1] at h
    obtain ⟨e, hxy⟩ := TypeRef.text_append_inj h
    rw [(toList_ref_text ht).2, (toList_ref_text hu).2, e]
    exact ⟨rfl, hxy⟩

/-! ## suffixes are told apart -/

theorem toList_brackets (rank : UInt32) :
    (brackets rank).toList = '[' :: (List.replicate (rank.toNat - 1) ',' ++ [']']) := by
  have hcommas : (String.ofList (List.replicate (rank.toNat - 1) ',')).toList =
      List.replicate (rank.toNat - 1) ',' := String.toList_ofList
  rw [brackets, String.toList_append, String.toList_append, hcommas]
  rfl

/-- The brackets at the end of a suffix show where they start and the rank, but for none or one. -/
theorem append_brackets_inj {xs ys : List Char} {m n : UInt32}
    (h : xs ++ (brackets m).toList = ys ++ (brackets n).toList) :
    xs = ys ∧ (if m = 0 then 1 else m) = if n = 0 then 1 else n := by
  have hword (k : Nat) : Word (· == '[') (List.replicate k ',') := by
    intro c hc
    rw [List.eq_of_mem_replicate hc]
    rfl
  have hends (zs : List Char) : Ends (· == '[') ('[' :: zs) := ends_cons zs rfl
  -- read from the end: the commas are a word that the opening bracket ends
  have hr := congrArg List.reverse h
  simp only [toList_brackets, List.reverse_append, List.reverse_cons, List.reverse_replicate,
    List.append_assoc, List.reverse_nil, List.nil_append, List.cons_append, List.cons.injEq,
    true_and] at hr
  obtain ⟨hc, hs⟩ := (hword _).append_inj (hword _) (hends _) (hends _) hr
  refine ⟨List.reverse_inj.mp (List.cons.inj hs).2, ?_⟩
  have hl := congrArg List.length hc
  rw [List.length_replicate, List.length_replicate] at hl
  by_cases hm : m = 0 <;> by_cases hn : n = 0
  · rw [if_pos hm, if_pos hn]
  all_goals
    simp only [hm, hn, if_true, if_false, ← UInt32.toNat_inj] at hl ⊢
    simp only [← UInt32.toNat_inj] at hm hn
    have h0 : UInt32.toNat 0 = 0 := rfl
    have h1 : UInt32.toNat 1 = 1 := rfl
    omega

@[simp]
theorem getLast?_suffix_array (t : Ty) (rank : UInt32) :
    (array t rank).suffix.getLast? = some ']' := by
  rw [suffix, toList_brackets, ← List.cons_append, ← List.append_assoc, List.getLast?_concat]

@[simp]
theorem getLast?_suffix_pointer (t : Ty) : (pointer t).suffix.getLast? = some '*' :=
  List.getLast?_concat

@[simp]
theorem getLast?_suffix_byRef (t : Ty) : (byRef t).suffix.getLast? = some '&' :=
  List.getLast?_concat

/-- a type is an array, a pointer, a reference, or its own core -/
theorem layers (t : Ty) :
    (∃ u rank, t = array u rank) ∨ (∃ u, t = pointer u) ∨ (∃ u, t = byRef u) ∨
    t.core = t ∧ t.suffix = [] := by
  cases t with
  | array u rank => exact .inl ⟨u, rank, rfl⟩
  | pointer u => exact .inr (.inl ⟨u, rfl⟩)
  | byRef u => exact .inr (.inr (.inl ⟨u, rfl⟩))
  | _ => exact .inr (.inr (.inr ⟨rfl, rfl⟩))

/-- Core and suffix determine the type, but for the two differences. -/
theorem collapse_inj {t u : Ty} (hc : t.core.collapse = u.core.collapse)
    (hs : t.suffix = u.suffix) : t.collapse = u.collapse := by
  induction t generalizing u with
  | array t m ih =>
    have hlast := congrArg List.getLast? hs
    obtain ⟨u, n, rfl⟩ | ⟨u, rfl⟩ | ⟨u, rfl⟩ | ⟨-, hu⟩ := u.layers
    · obtain ⟨hs', hrank⟩ := append_brackets_inj hs
      rw [collapse, collapse, ih (u := u) hc hs', hrank]
    · simp at hlast
    · simp at hlast
    · simp [hu] at hlast
  | pointer t ih =>
    have hlast := congrArg List.getLast? hs
    obtain ⟨u, n, rfl⟩ | ⟨u, rfl⟩ | ⟨u, rfl⟩ | ⟨-, hu⟩ := u.layers
    · simp at hlast
    · rw [collapse, collapse, ih (u := u) hc (List.append_inj' hs rfl).1]
    · simp at hlast
    · simp [hu] at hlast
  | byRef t ih =>
    have hlast := congrArg List.getLast? hs
    obtain ⟨u, n, rfl⟩ | ⟨u, rfl⟩ | ⟨u, rfl⟩ | ⟨-, hu⟩ := u.layers
    · simp at hlast
    · simp at hlast
    · rw [collapse, collapse, ih (u := u) hc (List.append_inj' hs rfl).1]
    · simp [hu] at hlast
  | _ =>
    have hlast := congrArg List.getLast? hs
    obtain ⟨u, n, rfl⟩ | ⟨u, rfl⟩ | ⟨u, rfl⟩ | ⟨hu, -⟩ := u.layers
    · rw [getLast?_suffix_array] at hlast
      cases hlast
    · rw [getLast?_suffix_pointer] at hlast
      cases hlast
    · rw [getLast?_suffix_byRef] at hlast
      cases hlast
    · rw [hu] at hc
      exact hc

/-! ## types are told apart -/

theorem word_suffix (t : Ty) : Word (· == '(') t.suffix := by
  induction t with
  | array t rank ih =>
    refine Word.append ih ?_
    rw [toList_brackets]
    have hopen : Word (· == '(') ['['] := by decide
    refine hopen.append (Word.append (fun c hc => ?_) (by decide))
    rw [List.eq_of_mem_replicate hc]
    rfl
  | pointer t ih => exact Word.append ih (by decide)
  | byRef t ih => exact Word.append ih (by decide)
  | _ => exact fun c hc => absurd hc List.not_mem_nil

/-- the suffix and what follows it start with a character that ends the name of the core -/
theorem ends_suffix (t : Ty) {r : List Char} (hr : Ends endsName r) :
    Ends endsName (t.suffix ++ r) := by
  induction t generalizing r with
  | array t rank ih =>
    rw [suffix, List.append_assoc, toList_brackets]
    exact ih (ends_cons _ rfl)
  | pointer t ih =>
    rw [suffix, List.append_assoc]
    exact ih (ends_cons _ rfl)
  | byRef t ih =>
    rw [suffix, List.append_assoc]
    exact ih (ends_cons _ rfl)
  | _ => exact hr

/-- The text of a type, followed by a parenthesis or by nothing, determines the type but for the
two differences, and what follows. -/
theorem text_append_inj {t u : Ty} {r s : List Char} (hr : Ends (· == '(') r)
    (hs : Ends (· == '(') s) (h : t.text.toList ++ r = u.text.toList ++ s) :
    t.collapse = u.collapse ∧ r = s := by
  have hends {x : List Char} (hx : Ends (· == '(') x) : Ends endsName x := by
    intro c hc
    rw [beq_iff_eq.mp (hx c hc)]
    rfl
  rw [t.toList_text, u.toList_text, List.append_assoc, List.append_assoc] at h
  obtain ⟨hc, h'⟩ := core_append_inj (t.ends_suffix (hends hr)) (u.ends_suffix (hends hs)) h
  obtain ⟨hsuffix, hrs⟩ := t.word_suffix.append_inj u.word_suffix hr hs h'
  exact ⟨collapse_inj hc hsuffix, hrs⟩

/-- **Texts of types are faithful but for two differences.**  Two types print alike exactly if they
are equal once value types are taken as class types and arrays of no dimension as arrays of one, at
every depth. -/
theorem text_eq_iff_collapse (t u : Ty) : t.text = u.text ↔ t.collapse = u.collapse := by
  constructor
  · intro h
    have hends : Ends (· == '(') [] := fun c hc => absurd hc (Option.not_mem_none c)
    have happend : t.text.toList ++ [] = u.text.toList ++ [] := by rw [h]
    exact (text_append_inj hends hends happend).1
  · intro h
    calc
      t.text = t.collapse.text := t.text_collapse.symm
      _ = u.collapse.text := by rw [h]
      _ = u.text := u.text_collapse

example : (pointer (array (valueType ⟨⟨0x02000001⟩⟩) 0)).text = "type(0x02000001)[]*" ∧
    (pointer (array (classType ⟨⟨0x02000001⟩⟩) 1)).text = "type(0x02000001)[]*" := by decide

end Ty

end ILTree
