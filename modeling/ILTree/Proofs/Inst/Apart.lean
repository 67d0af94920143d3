import ILTree.Proofs.Inst.Erase
import ILTree.Proofs.Scope.SlotText
import ILTree.Proofs.Text.Quoted

/-!
# Reading instructions of one shape

Two instructions are apart if their texts, whatever may follow them inside a longer text, show
both what is left after erasure and where they end.  For each shape: instructions of this shape are
apart if their operands are.

* `Legend`             the variables and containers that the texts may name, none like another;
* `follows`            what comes after an instruction inside the text of another one;
* `Inst.Apart a b`     equal texts mean equal trees after erasure, and the same ends;
* `Inst.arguments_apart`   a list of operands, up to the parenthesis that closes it;
* `Inst.opcode_of_text`    the fixed text at the start tells the shape;
* `Inst.text_dangling_else`   why each `if` must have its else arm.
-/

namespace ILTree

/-- the variables and containers that texts may name, told apart by what is printed of them -/
structure Legend where
  vars : List Variable
  targets : List Container
  word (v : Variable) (hv : v ∈ vars) : Word delimiter v.text.toList
  var_inj (v : Variable) (hv : v ∈ vars) (w : Variable) (hw : w ∈ vars)
    (h : v.text.toList = w.text.toList) : v = w
  target_inj (c : Container) (hc : c ∈ targets) (d : Container) (hd : d ∈ targets)
    (h : c.id = d.id) : c = d

/-! ## what follows -/

/-- the end, or the start of what comes after an instruction inside another one: never a blank
with an opening parenthesis, which would go on with the value of a `leave` -/
def follows : List Char → Bool
  | [] => true
  | ')' :: _ => true
  | ',' :: _ => true
  | ' ' :: c :: _ => c != '('
  | _ => false

theorem ends_of_follows {r : List Char} (h : follows r = true) : Ends delimiter r := by
  unfold follows at h
  split at h
  · exact fun c hc => absurd hc (Option.not_mem_none c)
  · exact ends_cons _ rfl
  · exact ends_cons _ rfl
  · exact ends_cons _ rfl
  · cases h

theorem ends_append {xs : List Char} (h : xs.head?.any delimiter = true) (z : List Char) :
    Ends delimiter (xs ++ z) := by
  cases xs with
  | nil => cases h
  | cons x xs => exact ends_cons _ h

theorem ends_open (z : List Char) : Ends delimiter ("(".toList ++ z) := ends_append (by decide) z

theorem ends_blank (z : List Char) : Ends delimiter (" ".toList ++ z) := ends_append (by decide) z

theorem follows_append {xs : List Char} (h : follows xs = true ∧ xs ≠ []) (z : List Char) :
    follows (xs ++ z) = true := by
  obtain ⟨h, hne⟩ := h
  unfold follows at h
  split at h
  · exact absurd rfl hne
  · rfl
  · rfl
  · exact h
  · cases h

theorem follows_close (z : List Char) : follows (")".toList ++ z) = true :=
  follows_append (by decide) z

theorem follows_comma (z : List Char) : follows (", ".toList ++ z) = true :=
  follows_append (by decide) z

theorem not_follows_blank (z : List Char) : follows (" (".toList ++ z) = false := by
  have hopen : " (".toList = [' ', '('] := by decide
  rw [hopen]
  rfl

/-! ## what instructions carry -/

theorem Legend.var_apart (L : Legend) {v w : Variable} (hv : v ∈ L.vars) (hw : w ∈ L.vars)
    {r s : List Char} (hr : Ends delimiter r) (hs : Ends delimiter s)
    (h : v.text.toList ++ r = w.text.toList ++ s) : v = w ∧ r = s := by
  obtain ⟨ht, hrs⟩ := (L.word v hv).append_inj (L.word w hw) hr hs h
  exact ⟨L.var_inj v hv w hw ht, hrs⟩

section
variable {r s : List Char} (hr : Ends delimiter r) (hs : Ends delimiter s)
include hr hs

theorem natText_apart {n m : Nat} (h : (Nat.repr n).toList ++ r = (Nat.repr m).toList ++ s) :
    n = m ∧ r = s := by
  have hword (k : Nat) : Word delimiter (Nat.toDigits 10 k) :=
    word_toDigits (by decide) (by decide) k
  rw [Nat.toList_repr, Nat.toList_repr] at h
  obtain ⟨hd, hrs⟩ := (hword n).append_inj (hword m) hr hs h
  exact ⟨toDigits_inj (by decide) (by decide) hd, hrs⟩

theorem intText_apart {i j : Int} (h : (Int.repr i).toList ++ r = (Int.repr j).toList ++ s) :
    i = j ∧ r = s := by
  have hdash (n : Nat) (x y : List Char) : (Nat.repr n).toList ++ x ≠ "-".toList ++ y := by
    have hminus : "-".toList = ['-'] := by decide
    rw [Nat.toList_repr, hminus]
    exact toDigits_append_ne_cons (by decide) n x y
  rw [Int.repr_eq_if, Int.repr_eq_if] at h
  by_cases hi : 0 ≤ i <;> by_cases hj : 0 ≤ j
  · rw [if_pos hi, if_pos hj] at h
    obtain ⟨e, hrs⟩ := natText_apart hr hs h
    exact ⟨by omega, hrs⟩
  · rw [if_pos hi, if_neg hj, String.toList_append, List.append_assoc] at h
    exact absurd h (hdash _ _ _)
  · rw [if_neg hi, if_pos hj, String.toList_append, List.append_assoc] at h
    exact absurd h.symm (hdash _ _ _)
  · rw [if_neg hi, if_neg hj, String.toList_append, String.toList_append, List.append_assoc,
      List.append_assoc] at h
    obtain ⟨e, hrs⟩ := natText_apart hr hs (List.append_cancel_left h)
    exact ⟨by omega, hrs⟩

theorem Legend.target_apart (L : Legend) {c d : Container} (hc : c ∈ L.targets)
    (hd : d ∈ L.targets) (h : c.text.toList ++ r = d.text.toList ++ s) : c = d ∧ r = s := by
  rw [Container.text, Container.text, String.toList_append, String.toList_append,
    List.append_assoc, List.append_assoc] at h
  obtain ⟨e, hrs⟩ := natText_apart hr hs (List.append_cancel_left h)
  exact ⟨L.target_inj c hc d hd (UInt32.toNat_inj.mp e), hrs⟩

end

/-- a stack type up to the parenthesis that opens the operand -/
theorem stackType_apart {t u : StackType} {r s : List Char}
    (h : t.text.toList ++ ("(".toList ++ r) = u.text.toList ++ ("(".toList ++ s)) :
    t = u ∧ r = s := by
  obtain ⟨e, hrs⟩ := Vocabulary.word_append_inj (f := fun t : StackType => t.text.toList)
    (by decide) (by decide) (ends_open r) (ends_open s) h
  exact ⟨e, List.append_cancel_left hrs⟩

/-- a comparison up to the blank before the right operand -/
theorem comparison_apart {k l : Comparison} {r s : List Char}
    (h : k.text.toList ++ (" ".toList ++ r) = l.text.toList ++ (" ".toList ++ s)) :
    k = l ∧ r = s := by
  obtain ⟨e, hrs⟩ := Vocabulary.word_append_inj (f := fun k : Comparison => k.text.toList)
    (by decide) (by decide) (ends_blank r) (ends_blank s) h
  exact ⟨e, List.append_cancel_left hrs⟩

/-- no operator is the start of another one -/
theorem operator_apart {op op' : BinaryOperator} {r s : List Char}
    (h : op.text.toList ++ r = op'.text.toList ++ s) : op = op' ∧ r = s :=
  Vocabulary.append_inj (f := fun op : BinaryOperator => op.text.toList) (by decide) h

theorem conversion_apart {k l : Conversion} {r s : List Char}
    (h : k.text.toList ++ r = l.text.toList ++ s) : k = l ∧ r = s :=
  Vocabulary.append_inj (f := fun k : Conversion => k.text.toList) (by decide) h

/-! ## what a text starts with -/

/-- the fixed text that an instruction starts with -/
def OpCode.opening : OpCode → String
  | .nop => "nop"
  | .constI4 => "ldc.i4 "
  | .constI8 => "ldc.i8 "
  | .constF8 => "ldc.f8 "
  | .constNull => "ldnull"
  | .constString => "ldstr "
  | .loadLocal => "ldloc "
  | .loadLocalAddr => "ldloca "
  | .storeLocal => "stloc "
  | .arrayLength => "ldlen."
  | .leave => "leave "
  | .branch => "br "
  | .ifElse => "if ("
  | .logicNot => "logic.not("
  | .compare => "comp("
  | .catchHandler => "catch "
  | .loadIndirect => "ldobj "
  | .storeIndirect => "stobj "
  | .loadFieldAddr => "ldflda "
  | .loadStaticFieldAddr => "ldsflda "
  | .loadElementAddr => "ldelema "
  | .binaryNumeric => "binary."
  | .conv => "conv."
  | .call => "call "
  | .throw => "throw("

namespace Inst

theorem toList_text_opening (i : Inst) :
    ∃ rest, i.text.toList = i.opcode.opening.toList ++ rest := by
  cases i with
  | nop | constNull => exact ⟨[], (List.append_nil _).symm⟩
  | _ =>
    simp only [text, String.toList_append, List.append_assoc]
    exact ⟨_, rfl⟩

/-- no opening is the start of another one -/
theorem opcode_of_text {a b : Inst} {r s : List Char}
    (h : a.text.toList ++ r = b.text.toList ++ s) : a.opcode = b.opcode := by
  obtain ⟨x, hx⟩ := toList_text_opening a
  obtain ⟨y, hy⟩ := toList_text_opening b
  rw [hx, hy, List.append_assoc, List.append_assoc] at h
  exact (Vocabulary.append_inj (f := fun o : OpCode => o.opening.toList) (by decide +kernel) h).1

/-- no text starts with a `w`, the start of what stands before a filter, nor with a parenthesis -/
theorem text_ne_cons (i : Inst) {c : Char} (hc : c = 'w' ∨ c = ')') (r z : List Char) :
    i.text.toList ++ r ≠ c :: z := by
  have key : ∀ o ∈ Vocabulary.members (α := OpCode),
      o.opening.toList.head?.all (fun d => d != 'w' && d != ')') = true ∧
        o.opening.toList ≠ [] := by decide
  obtain ⟨x, hx⟩ := toList_text_opening i
  obtain ⟨hd, hne⟩ := key _ (Vocabulary.complete i.opcode)
  rw [hx]
  intro e
  cases ho : i.opcode.opening.toList with
  | nil => exact hne ho
  | cons d ds =>
    rw [ho] at hd e
    obtain rfl := (List.cons.inj e).1
    rcases hc with rfl | rfl <;> cases hd

/-- behind a handler variable a body does not look like a filter -/
theorem blank_text_ne_when (i : Inst) (r z : List Char) :
    " ".toList ++ (i.text.toList ++ r) ≠ " when (".toList ++ z := by
  have hwhen : " when (".toList = " ".toList ++ ['w', 'h', 'e', 'n', ' ', '('] := by decide
  intro e
  rw [hwhen, List.append_assoc] at e
  exact text_ne_cons i (.inl rfl) _ _ (List.append_cancel_left e)

theorem toList_unlessNop_nop (t : String) : (unlessNop nop t).toList = [] := by
  have hempty : "".toList = [] := by decide
  rw [unlessNop, hempty]

/-! ## operands -/

/-- Equal texts, whatever may follow them inside other texts, mean equal trees after erasure, and
the same ends. -/
def Apart (a b : Inst) : Prop :=
  ∀ r s, follows r = true → follows s = true → a.text.toList ++ r = b.text.toList ++ s →
    a.erase = b.erase ∧ r = s

/-- an operand up to the parenthesis that closes it -/
theorem Apart.closed {x y : Inst} (hx : x.Apart y) {r s : List Char}
    (h : x.text.toList ++ (")".toList ++ r) = y.text.toList ++ (")".toList ++ s)) :
    x.erase = y.erase ∧ r = s := by
  obtain ⟨e, hrs⟩ := hx _ _ (follows_close r) (follows_close s) h
  exact ⟨e, List.append_cancel_left hrs⟩

/-- an operand up to the comma before the next one -/
theorem Apart.comma {x y : Inst} (hx : x.Apart y) {r s : List Char}
    (h : x.text.toList ++ (", ".toList ++ r) = y.text.toList ++ (", ".toList ++ s)) :
    x.erase = y.erase ∧ r = s := by
  obtain ⟨e, hrs⟩ := hx _ _ (follows_comma r) (follows_comma s) h
  exact ⟨e, List.append_cancel_left hrs⟩

/-- the operands after the first one, each behind a comma, and the parenthesis that closes them -/
def argumentsTail : List Inst → List Char → List Char
  | [], r => ")".toList ++ r
  | i :: is, r => ", ".toList ++ (i.text.toList ++ argumentsTail is r)

theorem follows_argumentsTail (is : List Inst) (r : List Char) :
    follows (argumentsTail is r) = true := by
  cases is with
  | nil => exact follows_close r
  | cons i is => exact follows_comma _

theorem toList_arguments (i : Inst) (is : List Inst) (r : List Char) :
    (", ".intercalate (textAll (i :: is))).toList ++ (")".toList ++ r) =
      i.text.toList ++ argumentsTail is r := by
  induction is generalizing i with
  | nil => rw [textAll, textAll, String.intercalate_singleton, argumentsTail]
  | cons j is ih =>
    rw [textAll, textAll, String.intercalate_cons_cons, ← textAll, String.toList_append,
      String.toList_append, List.append_assoc, List.append_assoc, ih, argumentsTail]

theorem argumentsTail_apart {is js : List Inst} (h : ∀ x ∈ is, ∀ y ∈ js, x.Apart y)
    {r s : List Char} (e : argumentsTail is r = argumentsTail js s) :
    eraseAll is = eraseAll js ∧ r = s := by
  have hclose : ")".toList = [')'] := by decide
  have hcomma : ", ".toList = [',', ' '] := by decide
  induction is generalizing js with
  | nil =>
    cases js with
    | nil => exact ⟨rfl, List.append_cancel_left e⟩
    | cons j js =>
      rw [argumentsTail, argumentsTail, hclose, hcomma] at e
      exact absurd (List.cons.inj e).1 (by decide)
  | cons i is ih =>
    cases js with
    | nil =>
      rw [argumentsTail, argumentsTail, hclose, hcomma] at e
      exact absurd (List.cons.inj e).1 (by decide)
    | cons j js =>
      rw [argumentsTail, argumentsTail] at e
      obtain ⟨hij, ht⟩ := h i List.mem_cons_self j List.mem_cons_self _ _
        (follows_argumentsTail is r) (follows_argumentsTail js s) (List.append_cancel_left e)
      obtain ⟨htail, hrs⟩ := ih
        (fun x hx y hy => h x (List.mem_cons_of_mem _ hx) y (List.mem_cons_of_mem _ hy)) ht
      rw [eraseAll, eraseAll, hij, htail]
      exact ⟨rfl, hrs⟩

/-- at least one operand, up to the parenthesis that closes them -/
theorem arguments_apart {x y : Inst} {is js : List Inst} (hxy : x.Apart y)
    (h : ∀ x ∈ is, ∀ y ∈ js, x.Apart y) {r s : List Char}
    (e : (", ".intercalate (textAll (x :: is))).toList ++ (")".toList ++ r) =
      (", ".intercalate (textAll (y :: js))).toList ++ (")".toList ++ s)) :
    x.erase = y.erase ∧ eraseAll is = eraseAll js ∧ r = s := by
  rw [toList_arguments, toList_arguments] at e
  obtain ⟨hx, ht⟩ := hxy _ _ (follows_argumentsTail is r) (follows_argumentsTail js s) e
  exact ⟨hx, argumentsTail_apart h ht⟩

/-! ## one shape each -/

theorem constI4_apart (n m : Int32) : (constI4 n).Apart (constI4 m) := by
  intro r s hr hs h
  simp only [text, String.toList_append, List.append_assoc, List.append_cancel_left_eq] at h
  obtain ⟨e, hrs⟩ := intText_apart (ends_of_follows hr) (ends_of_follows hs) h
  rw [Int32.toInt_inj.mp e]
  exact ⟨rfl, hrs⟩

theorem constI8_apart (n m : Int64) : (constI8 n).Apart (constI8 m) := by
  intro r s hr hs h
  simp only [text, String.toList_append, List.append_assoc, List.append_cancel_left_eq] at h
  obtain ⟨e, hrs⟩ := intText_apart (ends_of_follows hr) (ends_of_follows hs) h
  rw [Int64.toInt_inj.mp e]
  exact ⟨rfl, hrs⟩

theorem constString_apart (u v : String) : (constString u).Apart (constString v) := by
  intro r s _ _ h
  simp only [text, String.toList_append, List.append_assoc, List.append_cancel_left_eq] at h
  obtain ⟨rfl, hrs⟩ := Quoted.text_append_inj h
  exact ⟨rfl, hrs⟩

theorem branch_apart (b c : Block) : (branch b).Apart (branch c) := by
  intro r s hr hs h
  simp only [text, Block.text, String.toList_append, List.append_assoc,
    List.append_cancel_left_eq] at h
  obtain ⟨e, hrs⟩ := natText_apart (ends_of_follows hr) (ends_of_follows hs) h
  have hb : b = c := congrArg Block.mk (UInt32.toNat_inj.mp e)
  rw [hb]
  exact ⟨rfl, hrs⟩

theorem loadStaticFieldAddr_apart (f g : FieldRef) :
    (loadStaticFieldAddr f).Apart (loadStaticFieldAddr g) := by
  intro r s _ _ h
  simp only [text, String.toList_append, List.append_assoc, List.append_cancel_left_eq] at h
  obtain ⟨rfl, hrs⟩ := FieldRef.text_append_inj h
  exact ⟨rfl, hrs⟩

theorem logicNot_apart {x y : Inst} (hx : x.Apart y) : (logicNot x).Apart (logicNot y) := by
  intro r s _ _ h
  simp only [text, String.toList_append, List.append_assoc, List.append_cancel_left_eq] at h
  obtain ⟨e, hrs⟩ := hx.closed h
  rw [erase, erase, e]
  exact ⟨rfl, hrs⟩

theorem throw_apart {x y : Inst} (hx : x.Apart y) : (throw x).Apart (throw y) := by
  intro r s _ _ h
  simp only [text, String.toList_append, List.append_assoc, List.append_cancel_left_eq] at h
  obtain ⟨e, hrs⟩ := hx.closed h
  rw [erase, erase, e]
  exact ⟨rfl, hrs⟩

theorem arrayLength_apart (t u : StackType) {x y : Inst} (hx : x.Apart y) :
    (arrayLength t x).Apart (arrayLength u y) := by
  intro r s _ _ h
  simp only [text, String.toList_append, List.append_assoc, List.append_cancel_left_eq] at h
  obtain ⟨rfl, hx'⟩ := stackType_apart h
  obtain ⟨e, hrs⟩ := hx.closed hx'
  rw [erase, erase, e]
  exact ⟨rfl, hrs⟩

theorem loadFieldAddr_apart (f g : FieldRef) {x y : Inst} (hx : x.Apart y) :
    (loadFieldAddr x f).Apart (loadFieldAddr y g) := by
  intro r s _ _ h
  simp only [text, String.toList_append, List.append_assoc, List.append_cancel_left_eq] at h
  obtain ⟨rfl, hx'⟩ := FieldRef.text_append_inj h
  obtain ⟨e, hrs⟩ := hx.closed (List.append_cancel_left hx')
  rw [erase, erase, e]
  exact ⟨rfl, hrs⟩

/-! ### shapes with a type -/

/-- a type up to the parenthesis that opens the operands -/
theorem type_apart {t u : Ty} {r s : List Char}
    (h : t.text.toList ++ ("(".toList ++ r) = u.text.toList ++ ("(".toList ++ s)) :
    t.collapse = u.collapse ∧ r = s := by
  have hopen (z : List Char) : Ends (· == '(') ("(".toList ++ z) := by
    have e : "(".toList = ['('] := by decide
    rw [e]
    exact ends_cons _ rfl
  obtain ⟨ht, hrs⟩ := Ty.text_append_inj (hopen r) (hopen s) h
  exact ⟨ht, List.append_cancel_left hrs⟩

theorem loadIndirect_apart (t u : Ty) {x y : Inst} (hx : x.Apart y) :
    (loadIndirect x t).Apart (loadIndirect y u) := by
  intro r s _ _ h
  simp only [text, String.toList_append, List.append_assoc, List.append_cancel_left_eq] at h
  obtain ⟨ht, hx'⟩ := type_apart h
  obtain ⟨e, hrs⟩ := hx.closed hx'
  rw [erase, erase, ht, e]
  exact ⟨rfl, hrs⟩

theorem storeIndirect_apart (t u : Ty) {a b x y : Inst} (ha : a.Apart b) (hx : x.Apart y) :
    (storeIndirect a x t).Apart (storeIndirect b y u) := by
  intro r s _ _ h
  simp only [text, String.toList_append, List.append_assoc, List.append_cancel_left_eq] at h
  obtain ⟨ht, ha'⟩ := type_apart h
  obtain ⟨ea, hx'⟩ := ha.comma ha'
  obtain ⟨ex, hrs⟩ := hx.closed hx'
  rw [erase, erase, ht, ea, ex]
  exact ⟨rfl, hrs⟩

theorem loadElementAddr_apart (t u : Ty) {a b : Inst} {is js : List Inst} (ha : a.Apart b)
    (his : ∀ x ∈ is, ∀ y ∈ js, x.Apart y) :
    (loadElementAddr a is t).Apart (loadElementAddr b js u) := by
  intro r s _ _ h
  simp only [text, String.toList_append, List.append_assoc, List.append_cancel_left_eq] at h
  obtain ⟨ht, hall⟩ := type_apart h
  obtain ⟨ea, eis, hrs⟩ := arguments_apart ha his hall
  rw [erase, erase, ht, ea, eis]
  exact ⟨rfl, hrs⟩

/-! ### operators -/

theorem overflow_apart {o p : Bool} {r s : List Char}
    (h : (textIf o ".ovf").toList ++ (" ".toList ++ r) =
      (textIf p ".ovf").toList ++ (" ".toList ++ s)) : o = p ∧ r = s := by
  have hovf : ".ovf".toList = ['.', 'o', 'v', 'f'] := by decide
  have hblank : " ".toList = [' '] := by decide
  have hempty : "".toList = [] := by decide
  cases o <;> cases p <;> simp [textIf, hovf, hblank, hempty] at h ⊢ <;> exact h

theorem flags_apart {o p : Bool} {m n : Sign} {r s : List Char}
    (h : (textIf o ".ovf").toList ++ ((textIf (m == .unsigned) ".un").toList ++ ("(".toList ++ r)) =
      (textIf p ".ovf").toList ++ ((textIf (n == .unsigned) ".un").toList ++ ("(".toList ++ s))) :
    o = p ∧ m = n ∧ r = s := by
  have hovf : ".ovf".toList = ['.', 'o', 'v', 'f'] := by decide
  have hun : ".un".toList = ['.', 'u', 'n'] := by decide
  have hopen : "(".toList = ['('] := by decide
  have hempty : "".toList = [] := by decide
  cases o <;> cases p <;> cases m <;> cases n <;>
    simp [textIf, hovf, hun, hopen, hempty] at h ⊢ <;> exact h

theorem binaryNumeric_apart (op op' : BinaryOperator) (o p : Bool) (m n : Sign)
    {l l' x x' : Inst} (hl : l.Apart l') (hx : x.Apart x') :
    (binaryNumeric op l x o m).Apart (binaryNumeric op' l' x' p n) := by
  intro r s _ _ h
  simp only [text, String.toList_append, List.append_assoc, List.append_cancel_left_eq] at h
  obtain ⟨rfl, hflags⟩ := operator_apart h
  obtain ⟨rfl, rfl, hl'⟩ := flags_apart hflags
  obtain ⟨el, hx'⟩ := hl.comma hl'
  obtain ⟨ex, hrs⟩ := hx.closed hx'
  rw [erase, erase, el, ex]
  exact ⟨rfl, hrs⟩

theorem conv_apart (k l : Conversion) (t u : StackType) (o p : Bool) {x y : Inst}
    (hx : x.Apart y) : (conv x k t o).Apart (conv y l u p) := by
  intro r s _ _ h
  simp only [text, String.toList_append, List.append_assoc, List.append_cancel_left_eq] at h
  obtain ⟨rfl, hovf⟩ := conversion_apart h
  obtain ⟨rfl, ht⟩ := overflow_apart hovf
  obtain ⟨rfl, hx'⟩ := stackType_apart ht
  obtain ⟨e, hrs⟩ := hx.closed hx'
  rw [erase, erase, e]
  exact ⟨rfl, hrs⟩

theorem compare_apart (k k' : Comparison) (m n : Sign) {l l' x x' : Inst} (hl : l.Apart l')
    (hx : x.Apart x') : (compare k m l x).Apart (compare k' n l' x') := by
  intro r s _ _ h
  have hfollows (k : Comparison) (z : List Char) :
      follows (" ".toList ++ (k.text.toList ++ z)) = true := by
    rw [← List.append_assoc]
    exact follows_append (by cases k <;> decide) z
  simp only [text, String.toList_append, List.append_assoc, List.append_cancel_left_eq] at h
  obtain ⟨el, hk⟩ := hl _ _ (hfollows k _) (hfollows k' _) h
  obtain ⟨rfl, hx'⟩ := comparison_apart (List.append_cancel_left hk)
  obtain ⟨ex, hrs⟩ := hx.closed hx'
  rw [erase, erase, el, ex]
  exact ⟨rfl, hrs⟩

/-! ### calls -/

theorem call_apart (m n : MethodRef) {is js : List Inst} (h : ∀ x ∈ is, ∀ y ∈ js, x.Apart y) :
    (call m is).Apart (call n js) := by
  intro r s _ _ e
  have hclose : ")".toList = [')'] := by decide
  have hempty (z : List Char) : (", ".intercalate (textAll [])).toList ++ z = z := by
    rw [textAll, String.intercalate_nil]
    rfl
  simp only [text, String.toList_append, List.append_assoc, List.append_cancel_left_eq] at e
  obtain ⟨rfl, hargs⟩ := MethodRef.text_append_inj e
  replace hargs := List.append_cancel_left hargs
  -- without arguments the parenthesis closes at once, which no argument starts with
  cases is with
  | nil =>
    cases js with
    | nil => exact ⟨rfl, List.append_cancel_left (List.append_cancel_left hargs)⟩
    | cons j js =>
      rw [hempty, toList_arguments, hclose] at hargs
      exact absurd hargs.symm (text_ne_cons j (.inr rfl) _ _)
  | cons i is =>
    cases js with
    | nil =>
      rw [hempty, toList_arguments, hclose] at hargs
      exact absurd hargs (text_ne_cons i (.inr rfl) _ _)
    | cons j js =>
      obtain ⟨hij, htail, hrs⟩ := arguments_apart (h i List.mem_cons_self j List.mem_cons_self)
        (fun x hx y hy => h x (List.mem_cons_of_mem _ hx) y (List.mem_cons_of_mem _ hy)) hargs
      rw [erase, erase, eraseAll, eraseAll, hij, htail]
      exact ⟨rfl, hrs⟩

/-! ### shapes with variables and targets -/

section
variable (L : Legend) {v w : Variable} (hv : v ∈ L.vars) (hw : w ∈ L.vars)
include L hv hw

theorem loadLocal_apart : (loadLocal v).Apart (loadLocal w) := by
  intro r s hr hs h
  simp only [text, String.toList_append, List.append_assoc, List.append_cancel_left_eq] at h
  obtain ⟨rfl, hrs⟩ := L.var_apart hv hw (ends_of_follows hr) (ends_of_follows hs) h
  exact ⟨rfl, hrs⟩

theorem loadLocalAddr_apart : (loadLocalAddr v).Apart (loadLocalAddr w) := by
  intro r s hr hs h
  simp only [text, String.toList_append, List.append_assoc, List.append_cancel_left_eq] at h
  obtain ⟨rfl, hrs⟩ := L.var_apart hv hw (ends_of_follows hr) (ends_of_follows hs) h
  exact ⟨rfl, hrs⟩

theorem storeLocal_apart {x y : Inst} (hx : x.Apart y) :
    (storeLocal v x).Apart (storeLocal w y) := by
  intro r s _ _ h
  simp only [text, String.toList_append, List.append_assoc, List.append_cancel_left_eq] at h
  obtain ⟨rfl, hx'⟩ := L.var_apart hv hw (ends_open _) (ends_open _) h
  obtain ⟨e, hrs⟩ := hx.closed (List.append_cancel_left hx')
  rw [erase, erase, e]
  exact ⟨rfl, hrs⟩

theorem catchHandler_apart {f g x y : Inst} (hf : f.Apart g) (hx : x.Apart y) :
    (catchHandler v f x).Apart (catchHandler w g y) := by
  intro r s hr hs h
  simp only [text, String.toList_append, List.append_assoc, List.append_cancel_left_eq] at h
  have hends (i : Inst) (z : List Char) :
      Ends delimiter ((unlessNop i (" when (" ++ i.text ++ ")")).toList ++ (" ".toList ++ z)) := by
    by_cases hi : i = nop
    · rw [hi, toList_unlessNop_nop]
      exact ends_blank z
    · simp only [unlessNop_of_ne hi, String.toList_append, List.append_assoc]
      exact ends_append (by decide) _
  obtain ⟨rfl, hrest⟩ := L.var_apart hv hw (hends f _) (hends g _) h
  by_cases nf : f = nop <;> by_cases ng : g = nop
  · simp only [nf, ng, toList_unlessNop_nop, List.nil_append] at hrest
    obtain ⟨e, hrs⟩ := hx r s hr hs (List.append_cancel_left hrest)
    rw [nf, ng, erase, erase, e]
    exact ⟨rfl, hrs⟩
  · simp only [nf, unlessNop_of_ne ng, toList_unlessNop_nop, List.nil_append,
      String.toList_append, List.append_assoc] at hrest
    exact absurd hrest (blank_text_ne_when x _ _)
  · simp only [ng, unlessNop_of_ne nf, toList_unlessNop_nop, List.nil_append,
      String.toList_append, List.append_assoc] at hrest
    exact absurd hrest.symm (blank_text_ne_when y _ _)
  · simp only [unlessNop_of_ne nf, unlessNop_of_ne ng, String.toList_append, List.append_assoc,
      List.append_cancel_left_eq] at hrest
    obtain ⟨ef, hx'⟩ := hf.closed hrest
    obtain ⟨ex, hrs⟩ := hx r s hr hs (List.append_cancel_left hx')
    rw [erase, erase, ef, ex]
    exact ⟨rfl, hrs⟩

end

theorem leave_apart (L : Legend) {c d : Container} (hc : c ∈ L.targets) (hd : d ∈ L.targets)
    {x y : Inst} (hx : x.Apart y) : (leave c x).Apart (leave d y) := by
  intro r s hr hs h
  simp only [text, String.toList_append, List.append_assoc, List.append_cancel_left_eq] at h
  have hends (i : Inst) {z : List Char} (hz : follows z = true) :
      Ends delimiter ((unlessNop i (" (" ++ i.text ++ ")")).toList ++ z) := by
    by_cases hi : i = nop
    · rw [hi, toList_unlessNop_nop]
      exact ends_of_follows hz
    · simp only [unlessNop_of_ne hi, String.toList_append, List.append_assoc]
      exact ends_append (by decide) _
  obtain ⟨rfl, hrest⟩ := L.target_apart (hends x hr) (hends y hs) hc hd h
  by_cases nx : x = nop <;> by_cases ny : y = nop
  · simp only [nx, ny, toList_unlessNop_nop, List.nil_append] at hrest
    rw [nx, ny]
    exact ⟨rfl, hrest⟩
  · -- what follows the first one would be the value of the second one
    simp only [nx, unlessNop_of_ne ny, toList_unlessNop_nop, List.nil_append,
      String.toList_append, List.append_assoc] at hrest
    rw [hrest, not_follows_blank] at hr
    cases hr
  · simp only [ny, unlessNop_of_ne nx, toList_unlessNop_nop, List.nil_append,
      String.toList_append, List.append_assoc] at hrest
    rw [← hrest, not_follows_blank] at hs
    cases hs
  · simp only [unlessNop_of_ne nx, unlessNop_of_ne ny, String.toList_append, List.append_assoc,
      List.append_cancel_left_eq] at hrest
    obtain ⟨e, hrs⟩ := hx.closed hrest
    rw [erase, erase, e]
    exact ⟨rfl, hrs⟩

/-- With an else arm in each of them, it is clear which `if` it belongs to. -/
theorem ifElse_apart {c d x x' y y' : Inst} (hc : c.Apart d) (hx : x.Apart x') (hy : y.Apart y')
    (ny : y ≠ nop) (ny' : y' ≠ nop) : (ifElse c x y).Apart (ifElse d x' y') := by
  intro r s hr hs h
  simp only [text, unlessNop_of_ne ny, unlessNop_of_ne ny', String.toList_append,
    List.append_assoc, List.append_cancel_left_eq] at h
  obtain ⟨ec, hx'⟩ := hc _ _ (follows_append (by decide) _) (follows_append (by decide) _) h
  obtain ⟨ex, hy'⟩ := hx _ _ (follows_append (by decide) _) (follows_append (by decide) _)
    (List.append_cancel_left hx')
  obtain ⟨ey, hrs⟩ := hy r s hr hs (List.append_cancel_left hy')
  rw [erase, erase, ec, ex, ey]
  exact ⟨rfl, hrs⟩

/-- Where one of two nested conditionals has no else arm, the text does not show which. -/
theorem text_dangling_else (c d x : Inst) {y : Inst} (ny : y ≠ nop) :
    (ifThen c (ifElse d x y)).text = (ifElse c (ifThen d x) y).text := by
  have hempty (t : String) : unlessNop nop t = "" := rfl
  simp only [ifThen, text, unlessNop_of_ne ny, hempty, String.append_empty, String.append_assoc]

end Inst

end ILTree
