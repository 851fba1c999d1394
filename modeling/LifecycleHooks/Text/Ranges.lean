/-!
Sets of characters given as ranges of code points, each with its first and its last member.
-/

namespace LifecycleHooks.Text

def inRanges (ranges : Array (Nat × Nat)) (c : Char) : Bool :=
  ranges.any fun range => range.1 ≤ c.toNat && c.toNat ≤ range.2

end LifecycleHooks.Text
