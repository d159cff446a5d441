/-!
# Whole numbers in text

Reads decimal digits as a whole number, with or without a sign, and keeps a number only when
it lies in a stated range. `decimal?` reads digits and nothing else, so blanks, separators and
empty text are refused; a sign is the business of `signed?` and `unsigned?`.
-/
namespace Modpack.Whole

/-- The value of one decimal digit. -/
def digit? (character : Char) : Option Nat :=
  if character.isDigit then some (character.toNat - '0'.toNat) else none

/-- Continue a number with further digits, refusing any other character. -/
def extend? : Nat → List Char → Option Nat
  | value, [] => some value
  | value, character :: rest =>
    match digit? character with
    | some next => extend? (10 * value + next) rest
    | none => none

/-- One or more decimal digits, read as a number. -/
def decimal? : List Char → Option Nat
  | [] => none
  | characters => extend? 0 characters

/-- An optional sign and one or more digits. -/
def signed? : List Char → Option Int
  | '-' :: digits => (decimal? digits).map fun value => -(value : Int)
  | '+' :: digits => (decimal? digits).map fun value => (value : Int)
  | digits => (decimal? digits).map fun value => (value : Int)

/-- An optional plus sign and one or more digits. -/
def unsigned? : List Char → Option Nat
  | '+' :: digits => decimal? digits
  | digits => decimal? digits

/-- The smallest count, `-2^31`. -/
def minCount : Int := -2147483648

/-- The largest count, `2^31 - 1`. -/
def maxCount : Int := 2147483647

/-- How many record ids there are; ids run from zero to one less. -/
def idLimit : Nat := 4294967296

/-- The smallest wide integer, `-2^63`. -/
def minWide : Int := -9223372036854775808

/-- The largest wide integer, `2^63 - 1`. -/
def maxWide : Int := 9223372036854775807

/-- Whether a number fits 64 bits. -/
def IsWide (value : Int) : Prop :=
  minWide ≤ value ∧ value ≤ maxWide

instance (value : Int) : Decidable (IsWide value) :=
  inferInstanceAs (Decidable (_ ∧ _))

/-- What 64 bits hold of a number. -/
def wrapWide (value : Int) : Int :=
  value.bmod 18446744073709551616

/-- A number that lies between two bounds, both included. -/
def within? (low high value : Int) : Option Int :=
  if low ≤ value ∧ value ≤ high then some value else none

/-- A signed count written in text. -/
def count? (text : List Char) : Option Int :=
  (signed? text).bind (within? minCount maxCount)

/-- A record id written in text. -/
def id? (text : List Char) : Option Nat :=
  (unsigned? text).bind fun value => if value < idLimit then some value else none

/-- A whole number as text: a minus sign when negative, then its digits. -/
def text : Int → String
  | .ofNat value => String.ofList (Nat.toDigits 10 value)
  | .negSucc value => String.ofList ('-' :: Nat.toDigits 10 (value + 1))

/-- A number that fits 64 bits is held as it is. -/
theorem wrapWide_of_isWide {value : Int} (fits : IsWide value) : wrapWide value = value := by
  simp only [IsWide, minWide, maxWide] at fits
  exact Int.bmod_eq_of_le (by omega) (by omega)

/-- A number inside its bounds is kept as it is. -/
theorem within?_eq_some_iff {low high value kept : Int} :
    within? low high value = some kept ↔ (low ≤ value ∧ value ≤ high) ∧ value = kept := by
  simp [within?]

end Modpack.Whole
