/-!
# Hexadecimal text

* `Hex.fixed w n`   the last `w` hexadecimal digits of `n`, lower case, the highest first;
* `Hex.short n`     all hexadecimal digits of `n`, no leading zero (`0` for zero).
-/

namespace ILTree.Hex

/-- the last `w` hexadecimal digits of `n` -/
def fixed : Nat → Nat → List Char
  | 0, _ => []
  | w + 1, n => fixed w (n / 16) ++ [Nat.digitChar (n % 16)]

theorem length_fixed (w n : Nat) : (fixed w n).length = w := by
  induction w generalizing n with
  | zero => rfl
  | succ w ih => simp [fixed, ih]

/-- all hexadecimal digits of `n` -/
def short (n : Nat) : List Char := Nat.toDigits 16 n

end ILTree.Hex
