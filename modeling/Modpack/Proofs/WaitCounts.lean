import Modpack.Quest.Wait

/-!
# Counts in comparisons

An item wait keeps the count it asks for in a comparison, as text, and reads it back from there when
it is decided whether the wait is over. Digits read back as the number they were written for and
there are no blanks to take off, so what is read back is the count, as long as it lies in the range
of counts.
-/
namespace Modpack

/-! ## Numbers in text -/

namespace Whole

/-- Digits are read as the number they stand for. -/
theorem extend?_of_digits {digits : List Char}
    (all : ∀ character ∈ digits, character.isDigit = true) (value : Nat) :
    extend? value digits = some (Nat.ofDigitChars 10 digits value) := by
  induction digits generalizing value with
  | nil => rfl
  | cons character rest ih =>
    rw [extend?, digit?, if_pos (all character List.mem_cons_self), Nat.ofDigitChars_cons]
    exact ih (fun other member => all other (List.mem_cons_of_mem character member)) _

/-- The digits of a number are read as that number. -/
theorem decimal?_toDigits (value : Nat) : decimal? (Nat.toDigits 10 value) = some value := by
  have digits : ∀ character ∈ Nat.toDigits 10 value, character.isDigit = true :=
    fun character member => Nat.isDigit_of_mem_toDigits (by decide) (by decide) member
  have read := extend?_of_digits digits 0
  rw [Nat.ofDigitChars_toDigits (by decide) (by decide)] at read
  cases text : Nat.toDigits 10 value with
  | nil => exact absurd text Nat.toDigits_ne_nil
  | cons first rest =>
    rw [text] at read
    exact read

/-- A text that starts with a digit is read without a sign. -/
theorem signed?_of_digit {first : Char} (digit : first.isDigit = true) (rest : List Char) :
    signed? (first :: rest) = (decimal? (first :: rest)).map fun value => (value : Int) := by
  unfold signed?
  split
  · rename_i same
    rw [(List.cons.inj same).1] at digit
    exact absurd digit (by decide)
  · rename_i same
    rw [(List.cons.inj same).1] at digit
    exact absurd digit (by decide)
  · rfl

/-- The text of a whole number is read as that number. -/
theorem signed?_text (value : Int) : signed? (text value).toList = some value := by
  cases value with
  | ofNat value =>
    rw [text, String.toList_ofList]
    cases digits : Nat.toDigits 10 value with
    | nil => exact absurd digits Nat.toDigits_ne_nil
    | cons first rest =>
      have digit : first.isDigit = true := by
        have member : first ∈ Nat.toDigits 10 value := digits ▸ List.mem_cons_self
        exact Nat.isDigit_of_mem_toDigits (by decide) (by decide) member
      rw [signed?_of_digit digit, ← digits, decimal?_toDigits]
      rfl
  | negSucc value =>
    rw [text, String.toList_ofList, signed?, decimal?_toDigits]
    rfl

end Whole

/-! ## Blanks -/

namespace Text

/-- A text that starts without a blank has none to drop in front. -/
theorem trimStart_of_free {text : List Char}
    (free : ∀ character ∈ text, isBlank character = false) : trimStart text = text := by
  cases text with
  | nil => rfl
  | cons first rest =>
    rw [trimStart, List.dropWhile_cons, free first List.mem_cons_self]
    rfl

/-- A text without blanks stays as it is. -/
theorem trim_of_free {text : List Char} (free : ∀ character ∈ text, isBlank character = false) :
    trim text = text := by
  rw [trim, trimStart_of_free free, trimStart_of_free, List.reverse_reverse]
  intro character member
  exact free character (List.mem_reverse.1 member)

/-- A digit is no blank. -/
theorem isBlank_of_isDigit {character : Char} (digit : character.isDigit = true) :
    isBlank character = false := by
  rw [Bool.eq_false_iff]
  intro blank
  obtain ⟨range, member, low, high⟩ := covers_iff.1 blank
  simp only [Char.isDigit, Bool.and_eq_true, decide_eq_true_eq, UInt32.le_iff_toNat_le] at digit
  change 48 ≤ character.toNat ∧ character.toNat ≤ 57 at digit
  -- No range of blanks reaches into the codes of digits, 48 to 57.
  simp only [blankRanges, List.mem_cons, List.not_mem_nil, or_false] at member
  rcases member with rfl | rfl | rfl | rfl | rfl | rfl | rfl | rfl | rfl | rfl <;>
    simp only at low high <;> omega

end Text

/-- The text of a whole number has no blanks. -/
theorem Whole.text_free (value : Int) :
    ∀ character ∈ (text value).toList, Text.isBlank character = false := by
  have digits (value : Nat) : ∀ character ∈ Nat.toDigits 10 value,
      Text.isBlank character = false := fun character member =>
    Text.isBlank_of_isDigit (Nat.isDigit_of_mem_toDigits (by decide) (by decide) member)
  cases value with
  | ofNat value =>
    rw [text, String.toList_ofList]
    exact digits value
  | negSucc value =>
    rw [text, String.toList_ofList]
    intro character member
    rcases List.mem_cons.1 member with rfl | inDigits
    · decide
    · exact digits (value + 1) character inDigits

namespace WaitCondition

/-- A comparison holds the count it was made for. -/
theorem countIn?_comparatorOf {count : Int} (low : Whole.minCount ≤ count)
    (high : count ≤ Whole.maxCount) : countIn? (comparatorOf count).toList = some count := by
  have characters : (comparatorOf count).toList = '>' :: '=' :: (Whole.text count).toList := by
    rw [comparatorOf, String.toList_append]
    rfl
  have free : ∀ character ∈ '>' :: '=' :: (Whole.text count).toList,
      Text.isBlank character = false := by
    intro character member
    rcases List.mem_cons.1 member with rfl | member
    · decide
    rcases List.mem_cons.1 member with rfl | inText
    · decide
    · exact Whole.text_free count character inText
  rw [countIn?, characters, Text.trim_of_free free]
  simp only [Text.trim_of_free (Whole.text_free count), Whole.count?, Whole.signed?_text,
    Option.bind_some]
  exact Whole.within?_eq_some_iff.2 ⟨⟨low, high⟩, rfl⟩

/-- A wait asks for the count it was made for. -/
theorem required_atLeast (item : Nat) {count : Int} (low : Whole.minCount ≤ count)
    (high : count ≤ Whole.maxCount) : (atLeast item count).required = count := by
  rw [required, atLeast, countIn?_comparatorOf low high]
  rfl

end WaitCondition

end Modpack
