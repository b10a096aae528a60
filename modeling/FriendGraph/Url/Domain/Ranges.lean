/-! # Ranges of characters

A property of characters is kept as the ranges of the numbers of the characters that have it.
-/

namespace FriendGraph.Url.Domain

/-- Ranges of numbers, each with its first and its last one. -/
abbrev Ranges := List (Nat × Nat)

/-- Whether the number of a character is in one of the ranges. -/
def Ranges.contain (ranges : Ranges) (c : Char) : Bool :=
  ranges.any fun (first, last) => first ≤ c.toNat && c.toNat ≤ last

end FriendGraph.Url.Domain
