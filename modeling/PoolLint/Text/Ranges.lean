/-! Membership of a code point in a list of inclusive ranges. -/
namespace PoolLint.Text

def inRanges (ranges : List (Nat × Nat)) (n : Nat) : Bool :=
  ranges.any fun r => r.1 ≤ n && n ≤ r.2

end PoolLint.Text
