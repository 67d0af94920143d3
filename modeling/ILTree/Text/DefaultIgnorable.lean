/-!
# Characters without a look of their own

The Unicode property Default_Ignorable_Code_Point: fillers, joiners, selectors and the like, which
are left out where they can't be shown.

* `DefaultIgnorable.ranges`   the code points in order, as first and last of each run;
* `DefaultIgnorable.mem c`    whether `c` is one of them.
-/

namespace ILTree.DefaultIgnorable

/-- first and last code point of each run -/
def ranges : Array (Nat × Nat) :=
  #[(0xad, 0xad), (0x34f, 0x34f), (0x61c, 0x61c), (0x115f, 0x1160), (0x17b4, 0x17b5),
    (0x180b, 0x180f), (0x200b, 0x200f), (0x202a, 0x202e), (0x2060, 0x206f), (0x3164, 0x3164),
    (0xfe00, 0xfe0f), (0xfeff, 0xfeff), (0xffa0, 0xffa0), (0xfff0, 0xfff8), (0x1bca0, 0x1bca3),
    (0x1d173, 0x1d17a), (0xe0000, 0xe0fff)]

def mem (c : Char) : Bool := ranges.any fun r => r.1 ≤ c.toNat && c.toNat ≤ r.2

end ILTree.DefaultIgnorable
