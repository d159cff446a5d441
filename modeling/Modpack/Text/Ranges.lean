/-!
# Sets of characters as ranges

A set of characters is written as the list of its maximal runs of code points, each with its
first and its last member. `covers` decides membership.
-/
namespace Modpack.Text

/-- Whether a character lies in one of the ranges. -/
def covers (ranges : List (Nat × Nat)) (character : Char) : Bool :=
  ranges.any fun range => range.1 ≤ character.toNat && character.toNat ≤ range.2

/-- A character is covered exactly when some range holds its code point. -/
theorem covers_iff {ranges : List (Nat × Nat)} {character : Char} :
    covers ranges character = true ↔
      ∃ range ∈ ranges, range.1 ≤ character.toNat ∧ character.toNat ≤ range.2 := by
  simp [covers]

end Modpack.Text
