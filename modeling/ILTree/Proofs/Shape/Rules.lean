import ILTree.Proofs.Shape.Inverse
import ILTree.Shape.Catalogue

/-!
# What the matchers accept

All matchers in one relation, a rule for each shape.  A proof about any matcher on any instruction
goes through the rules and never through pairs of a matcher and a shape.

* `Matcher.Gives m i cs`   the matcher `m` accepts `i` and gives the parts `cs`;
* `run_eq_some_iff`        running a matcher is described by the rules exactly.
-/

namespace ILTree.Matcher

inductive Gives : Matcher → Inst → List Capture → Prop where
  | isNop : Gives .isNop .nop []
  | isNull : Gives .isNull .constNull []
  | isI4 (n : Int32) : Gives (.isI4 n) (.constI4 n) []
  | isLoadOf {v w : Variable} (h : w.same v = true) : Gives (.isLoadOf v) (.loadLocal w) []
  | isAddressOf {v w : Variable} (h : w.same v = true) :
      Gives (.isAddressOf v) (.loadLocalAddr w) []
  | isReferenceTo_load {v w : Variable} (hv : v.isReference = some true) (h : w.same v = true) :
      Gives (.isReferenceTo v) (.loadLocal w) []
  | isReferenceTo_address {v w : Variable} (hv : v.isReference ≠ some true)
      (h : w.same v = true) : Gives (.isReferenceTo v) (.loadLocalAddr w) []
  | isLoadOfThis {v : Variable} (h : v.isThis = true) : Gives .isLoadOfThis (.loadLocal v) []
  | isBranchTo (b : Block) : Gives (.isBranchTo b) (.branch b) []
  | isVoidLeaveTo (c : Container) : Gives (.isVoidLeaveTo c) (.leaveVoid c) []
  | isStaticFieldLoad (f : FieldRef) (t : Ty) :
      Gives (.isStaticFieldLoad f) (.loadIndirect (.loadStaticFieldAddr f) t) []
  | isFieldAddress_field (x : Inst) (f : FieldRef) :
      Gives .isFieldAddress (.loadFieldAddr x f) []
  | isFieldAddress_static (f : FieldRef) : Gives .isFieldAddress (.loadStaticFieldAddr f) []
  | isBinary (op : BinaryOperator) (l r : Inst) (ovf : Bool) (s : Sign) :
      Gives (.isBinary op) (.binaryNumeric op l r ovf s) []
  | leavesFunction {c : Container} (h : c.isFunctionBody = true) (x : Inst) :
      Gives .leavesFunction (.leave c x) []
  | i4 (n : Int32) : Gives .i4 (.constI4 n) [.int n.toInt]
  | i8 (n : Int64) : Gives .i8 (.constI8 n) [.int n.toInt]
  | int_i8 (n : Int64) : Gives .int (.constI8 n) [.int n.toInt]
  | int_i4 (n : Int32) : Gives .int (.constI4 n) [.int n.toInt64.toInt]
  | string (s : String) : Gives .string (.constString s) [.string s]
  | loaded (v : Variable) : Gives .loaded (.loadLocal v) [.var v]
  | addressed (v : Variable) : Gives .addressed (.loadLocalAddr v) [.var v]
  | referenced_load {v : Variable} (hv : v.isReference = some true) :
      Gives .referenced (.loadLocal v) [.var v]
  | referenced_address {v : Variable} (hv : v.isReference ≠ some true) :
      Gives .referenced (.loadLocalAddr v) [.var v]
  | stored (v : Variable) (x : Inst) : Gives .stored (.storeLocal v x) [.var v]
  | storedTo {v w : Variable} (h : w.same v = true) (x : Inst) :
      Gives (.storedTo v) (.storeLocal w x) [.inst x]
  | handled (v : Variable) (f b : Inst) : Gives .handled (.catchHandler v f b) [.var v]
  | arrayLength (t : StackType) (a : Inst) :
      Gives (.arrayLength t) (.arrayLength t a) [.inst a]
  | returned {c : Container} (h : c.isFunctionBody = true) (x : Inst) :
      Gives .returned (.leave c x) [.inst x]
  | branch (b : Block) : Gives .branch (.branch b) [.block b]
  | leave (c : Container) (x : Inst) : Gives .leave (.leave c x) [.container c, .inst x]
  | leaveTo (c : Container) (x : Inst) : Gives (.leaveTo c) (.leave c x) [.inst x]
  | voidLeave (c : Container) : Gives .voidLeave (.leaveVoid c) [.container c]
  | ifElse (c t f : Inst) : Gives .ifElse (.ifElse c t f) [.inst c, .inst t, .inst f]
  | ifThen (c t : Inst) : Gives .ifThen (.ifThen c t) [.inst c, .inst t]
  | and (l r : Inst) : Gives .and (.shortAnd l r) [.inst l, .inst r]
  | or (l r : Inst) : Gives .or (.shortOr l r) [.inst l, .inst r]
  | not (x : Inst) : Gives .not (.logicNot x) [.inst x]
  | comparison (k : Comparison) (s : Sign) (l r : Inst) :
      Gives (.comparison k) (.compare k s l r) [.inst l, .inst r]
  | equals (s : Sign) (l r : Inst) :
      Gives .equals (.compare .equality s l r) [.inst l, .inst r]
  | equals_negated (s : Sign) (l r : Inst) :
      Gives .equals (.logicNot (.compare .inequality s l r)) [.inst l, .inst r]
  | notEquals (s : Sign) (l r : Inst) :
      Gives .notEquals (.compare .inequality s l r) [.inst l, .inst r]
  | notEquals_negated (s : Sign) (l r : Inst) :
      Gives .notEquals (.logicNot (.compare .equality s l r)) [.inst l, .inst r]
  | fieldAddress (x : Inst) (f : FieldRef) :
      Gives .fieldAddress (.loadFieldAddr x f) [.inst x, .field f]
  | staticFieldAddress (f : FieldRef) :
      Gives .staticFieldAddress (.loadStaticFieldAddr f) [.field f]
  | staticFieldLoad (f : FieldRef) (t : Ty) :
      Gives .staticFieldLoad (.loadIndirect (.loadStaticFieldAddr f) t) [.field f]
  | fieldLoad (x : Inst) (f : FieldRef) (t : Ty) :
      Gives .fieldLoad (.loadIndirect (.loadFieldAddr x f) t) [.inst x, .field f]
  | staticFieldStore (f : FieldRef) (y : Inst) (t : Ty) :
      Gives .staticFieldStore (.storeIndirect (.loadStaticFieldAddr f) y t) [.field f, .inst y]
  | fieldStore (x : Inst) (f : FieldRef) (y : Inst) (t : Ty) :
      Gives .fieldStore (.storeIndirect (.loadFieldAddr x f) y t) [.inst x, .field f, .inst y]
  | binaryOf (op : BinaryOperator) (l r : Inst) (ovf : Bool) (s : Sign) :
      Gives (.binaryOf op) (.binaryNumeric op l r ovf s) [.inst l, .inst r]
  | binary (op : BinaryOperator) (l r : Inst) (ovf : Bool) (s : Sign) :
      Gives .binary (.binaryNumeric op l r ovf s) [.operator op, .inst l, .inst r]
  | peel (k : Conversion) (i : Inst) : Gives (.peel k) i [.inst (i.peel k)]

/-! ## one matcher at a time -/

theorem test_true {b : Bool} (h : b = true) : test b = some [] := if_pos h

theorem map_some {α : Type} {x : Option α} {a : α} (f : α → List Capture) (h : x = some a) :
    x.map f = some (f a) := by rw [h, Option.map_some]

section
variable {m : Matcher} {i : Inst} {cs : List Capture}

/-- A test that holds gives no parts. -/
theorem Gives.of_test {b : Bool} (h : test b = some cs) (rule : b = true → Gives m i []) :
    Gives m i cs := by
  cases b with
  | false => simp [test] at h
  | true =>
    obtain rfl : [] = cs := Option.some.inj h
    exact rule rfl

/-- A pattern that is there gives the parts that the matcher makes of it. -/
theorem Gives.of_map {α : Type} {x : Option α} {f : α → List Capture}
    (h : x.map f = some cs) (rule : ∀ a, x = some a → Gives m i (f a)) : Gives m i cs := by
  obtain ⟨a, ha, rfl⟩ := Option.map_eq_some_iff.mp h
  exact rule a ha

open Inst in
theorem gives_of_run (h : m.run i = some cs) : Gives m i cs := by
  cases m with
  | isNop => exact .of_test h fun h => isNop_iff.mp h ▸ .isNop
  | isNull => exact .of_test h fun h => isNull_iff.mp h ▸ .isNull
  | isI4 n => exact .of_test h fun h => isI4_iff.mp h ▸ .isI4 n
  | isLoadOf v =>
    refine .of_test h fun h => ?_
    obtain ⟨w, rfl, hw⟩ := isLoadOf_iff.mp h
    exact .isLoadOf hw
  | isAddressOf v =>
    refine .of_test h fun h => ?_
    obtain ⟨w, rfl, hw⟩ := isAddressOf_iff.mp h
    exact .isAddressOf hw
  | isReferenceTo v =>
    refine .of_test h fun h => ?_
    rcases isReferenceTo_iff.mp h with ⟨hv, w, rfl, hw⟩ | ⟨hv, w, rfl, hw⟩
    · exact .isReferenceTo_load hv hw
    · exact .isReferenceTo_address hv hw
  | isLoadOfThis =>
    refine .of_test h fun h => ?_
    obtain ⟨v, rfl, hv⟩ := isLoadOfThis_iff.mp h
    exact .isLoadOfThis hv
  | isBranchTo b => exact .of_test h fun h => isBranchTo_iff.mp h ▸ .isBranchTo b
  | isVoidLeaveTo c => exact .of_test h fun h => isVoidLeaveTo_iff.mp h ▸ .isVoidLeaveTo c
  | isStaticFieldLoad f =>
    refine .of_test h fun h => ?_
    obtain ⟨t, rfl⟩ := isStaticFieldLoad_iff.mp h
    exact .isStaticFieldLoad f t
  | isFieldAddress =>
    refine .of_test h fun h => ?_
    rcases isFieldAddress_iff.mp h with ⟨x, f, rfl⟩ | ⟨f, rfl⟩
    · exact .isFieldAddress_field x f
    · exact .isFieldAddress_static f
  | isBinary op =>
    refine .of_test h fun h => ?_
    obtain ⟨l, r, ovf, s, rfl⟩ := isBinary_iff.mp h
    exact .isBinary op l r ovf s
  | leavesFunction =>
    refine .of_test h fun h => ?_
    obtain ⟨c, x, hc, rfl⟩ := leavesFunction_iff.mp h
    exact .leavesFunction hc x
  | i4 => exact .of_map h fun n hn => i4?_eq_some.mp hn ▸ .i4 n
  | i8 => exact .of_map h fun n hn => i8?_eq_some.mp hn ▸ .i8 n
  | int =>
    refine .of_map h fun n hn => ?_
    rcases int?_eq_some.mp hn with rfl | ⟨m, rfl, rfl⟩
    · exact .int_i8 n
    · exact .int_i4 m
  | string => exact .of_map h fun s hs => string?_eq_some.mp hs ▸ .string s
  | loaded => exact .of_map h fun v hv => loaded?_eq_some.mp hv ▸ .loaded v
  | addressed => exact .of_map h fun v hv => addressed?_eq_some.mp hv ▸ .addressed v
  | referenced =>
    refine .of_map h fun v hv => ?_
    rcases referenced?_eq_some.mp hv with ⟨rfl, hr⟩ | ⟨rfl, hr⟩
    · exact .referenced_load hr
    · exact .referenced_address hr
  | stored =>
    refine .of_map h fun v hv => ?_
    obtain ⟨x, rfl⟩ := stored?_eq_some.mp hv
    exact .stored v x
  | storedTo v =>
    refine .of_map h fun x hx => ?_
    obtain ⟨w, hw, rfl⟩ := storedTo?_eq_some.mp hx
    exact .storedTo hw x
  | handled =>
    refine .of_map h fun v hv => ?_
    obtain ⟨f, b, rfl⟩ := handled?_eq_some.mp hv
    exact .handled v f b
  | arrayLength t =>
    exact .of_map h fun a ha => arrayLength?_eq_some.mp ha ▸ .arrayLength t a
  | returned =>
    refine .of_map h fun x hx => ?_
    obtain ⟨c, hc, rfl⟩ := returned?_eq_some.mp hx
    exact .returned hc x
  | branch => exact .of_map h fun b hb => branch?_eq_some.mp hb ▸ .branch b
  | leave => exact .of_map h fun (c, x) hx => leave?_eq_some.mp hx ▸ .leave c x
  | leaveTo c => exact .of_map h fun x hx => leaveTo?_eq_some.mp hx ▸ .leaveTo c x
  | voidLeave => exact .of_map h fun c hc => voidLeave?_eq_some.mp hc ▸ .voidLeave c
  | ifElse => exact .of_map h fun (c, t, f) hi => ifElse?_eq_some.mp hi ▸ .ifElse c t f
  | ifThen => exact .of_map h fun (c, t) hi => ifThen?_eq_some.mp hi ▸ .ifThen c t
  | and => exact .of_map h fun (l, r) hi => and?_eq_some.mp hi ▸ .and l r
  | or => exact .of_map h fun (l, r) hi => or?_eq_some.mp hi ▸ .or l r
  | not => exact .of_map h fun x hx => not?_eq_some.mp hx ▸ .not x
  | comparison k =>
    refine .of_map h fun (l, r) hi => ?_
    obtain ⟨s, rfl⟩ := comparison?_eq_some.mp hi
    exact .comparison k s l r
  | equals =>
    refine .of_map h fun (l, r) hi => ?_
    obtain ⟨s, rfl | rfl⟩ := equals?_eq_some.mp hi
    · exact .equals s l r
    · exact .equals_negated s l r
  | notEquals =>
    refine .of_map h fun (l, r) hi => ?_
    obtain ⟨s, rfl | rfl⟩ := notEquals?_eq_some.mp hi
    · exact .notEquals s l r
    · exact .notEquals_negated s l r
  | fieldAddress =>
    exact .of_map h fun (x, f) hi => fieldAddress?_eq_some.mp hi ▸ .fieldAddress x f
  | staticFieldAddress =>
    exact .of_map h fun f hf => staticFieldAddress?_eq_some.mp hf ▸ .staticFieldAddress f
  | staticFieldLoad =>
    refine .of_map h fun f hf => ?_
    obtain ⟨t, rfl⟩ := staticFieldLoad?_eq_some.mp hf
    exact .staticFieldLoad f t
  | fieldLoad =>
    refine .of_map h fun (x, f) hi => ?_
    obtain ⟨t, rfl⟩ := fieldLoad?_eq_some.mp hi
    exact .fieldLoad x f t
  | staticFieldStore =>
    refine .of_map h fun (f, y) hi => ?_
    obtain ⟨t, rfl⟩ := staticFieldStore?_eq_some.mp hi
    exact .staticFieldStore f y t
  | fieldStore =>
    refine .of_map h fun (x, f, y) hi => ?_
    obtain ⟨t, rfl⟩ := fieldStore?_eq_some.mp hi
    exact .fieldStore x f y t
  | binaryOf op =>
    refine .of_map h fun (l, r) hi => ?_
    obtain ⟨ovf, s, rfl⟩ := binaryOf?_eq_some.mp hi
    exact .binaryOf op l r ovf s
  | binary =>
    refine .of_map h fun (op, l, r) hi => ?_
    obtain ⟨ovf, s, rfl⟩ := binary?_eq_some.mp hi
    exact .binary op l r ovf s
  | peel k =>
    obtain rfl := Option.some.inj h
    exact .peel k i

open Inst in
theorem run_of_gives (h : Gives m i cs) : m.run i = some cs := by
  cases h with
  | isI4 n => exact test_true (isI4_iff.mpr rfl)
  | isLoadOf h => exact test_true (isLoadOf_iff.mpr ⟨_, rfl, h⟩)
  | isAddressOf h => exact test_true (isAddressOf_iff.mpr ⟨_, rfl, h⟩)
  | isReferenceTo_load hv h => exact test_true (isReferenceTo_iff.mpr (.inl ⟨hv, _, rfl, h⟩))
  | isReferenceTo_address hv h => exact test_true (isReferenceTo_iff.mpr (.inr ⟨hv, _, rfl, h⟩))
  | isLoadOfThis h => exact test_true (isLoadOfThis_iff.mpr ⟨_, rfl, h⟩)
  | isBranchTo b => exact test_true (isBranchTo_iff.mpr rfl)
  | isVoidLeaveTo c => exact test_true (isVoidLeaveTo_iff.mpr rfl)
  | isStaticFieldLoad f t => exact test_true (isStaticFieldLoad_iff.mpr ⟨t, rfl⟩)
  | isBinary op l r ovf s => exact test_true (isBinary_iff.mpr ⟨l, r, ovf, s, rfl⟩)
  | leavesFunction h x => exact test_true (leavesFunction_iff.mpr ⟨_, x, h, rfl⟩)
  | referenced_load hv => exact map_some _ (referenced?_eq_some.mpr (.inl ⟨rfl, hv⟩))
  | referenced_address hv => exact map_some _ (referenced?_eq_some.mpr (.inr ⟨rfl, hv⟩))
  | storedTo h x => exact map_some _ (storedTo?_eq_some.mpr ⟨_, h, rfl⟩)
  | arrayLength t a => exact map_some _ (arrayLength?_eq_some.mpr rfl)
  | returned h x => exact map_some _ (returned?_eq_some.mpr ⟨_, h, rfl⟩)
  | leaveTo c x => exact map_some _ (leaveTo?_eq_some.mpr rfl)
  | comparison k s l r => exact map_some insts (comparison?_eq_some.mpr ⟨s, rfl⟩)
  | binaryOf op l r ovf s => exact map_some insts (binaryOf?_eq_some.mpr ⟨ovf, s, rfl⟩)
  | _ => rfl

theorem run_eq_some_iff : m.run i = some cs ↔ Gives m i cs := ⟨gives_of_run, run_of_gives⟩

end

end ILTree.Matcher
