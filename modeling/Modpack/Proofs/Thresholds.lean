import Modpack.Proofs.OppositeNumbers
import Modpack.Proofs.TrimmedCase
import Modpack.Proofs.WaitCounts

/-!
# Thresholds in text

The comparison of an item wait is a text that anybody may have written. It holds a count when,
blanks around it apart, it is the sign of the comparison, blanks or none, and a literal: digits that
may have one sign in front. The wait asks for that count if it has 32 bits, and for one if the text
holds no count or one that does not fit. So a wait that was made for a count asks for this count,
whichever it is, and is over as soon as the player carries so many.
-/
namespace Modpack

/-! ## Literals -/

namespace Whole

/-- A number that counts can have. -/
def IsCount (value : Int) : Prop :=
  minCount ≤ value ∧ value ≤ maxCount

/-- One or more decimal digits, and the number they stand for. -/
structure Digits (digits : List Char) (value : Nat) : Prop where
  /-- There is a digit. -/
  nonempty : digits ≠ []
  /-- There is nothing else. -/
  all : ∀ character ∈ digits, character.isDigit = true
  /-- The first digit counts most. -/
  value_eq : Nat.ofDigitChars 10 digits 0 = value

/-- A literal: digits that may have a sign in front, and the number they stand for. -/
inductive Literal : List Char → Int → Prop
  /-- Digits alone. -/
  | plain {digits : List Char} {value : Nat} (read : Digits digits value) : Literal digits value
  /-- Digits behind a plus sign. -/
  | plus {digits : List Char} {value : Nat} (read : Digits digits value) :
    Literal ('+' :: digits) value
  /-- Digits behind a minus sign. -/
  | minus {digits : List Char} {value : Nat} (read : Digits digits value) :
    Literal ('-' :: digits) (-value)

/-- A text is read as a number without a sign exactly if it consists of the digits of the number. -/
theorem decimal?_eq_some_iff {text : List Char} {value : Nat} :
    decimal? text = some value ↔ Digits text value := by
  constructor
  · intro read
    have all := Decimal.isDigit_of_decimal? read
    cases text with
    | nil => cases read
    | cons first rest =>
      change extend? 0 (first :: rest) = some value at read
      rw [extend?_of_digits all] at read
      exact ⟨List.cons_ne_nil first rest, all, Option.some.inj read⟩
  · rintro ⟨nonempty, all, rfl⟩
    cases text with
    | nil => exact absurd rfl nonempty
    | cons first rest => exact extend?_of_digits all 0

/-- A number that is made of what digits are read as is made of a number without a sign. -/
theorem exists_decimal? {digits : List Char} {sign : Int → Int} {value : Int}
    (read : Option.map sign (decimal? digits) = some value) :
    ∃ size : Nat, decimal? digits = some size ∧ sign size = value := by
  cases found : decimal? digits with
  | none =>
    rw [found] at read
    cases read
  | some size =>
    rw [found] at read
    exact ⟨size, rfl, Option.some.inj read⟩

/-- A text is read as a number exactly if it is a literal of the number. -/
theorem signed?_eq_some_iff {text : List Char} {value : Int} :
    signed? text = some value ↔ Literal text value := by
  constructor
  · intro read
    unfold signed? at read
    split at read
    · obtain ⟨size, digits, rfl⟩ := exists_decimal? read
      exact .minus (decimal?_eq_some_iff.1 digits)
    · obtain ⟨size, digits, rfl⟩ := exists_decimal? read
      exact .plus (decimal?_eq_some_iff.1 digits)
    · obtain ⟨size, digits, rfl⟩ := exists_decimal? read
      exact .plain (decimal?_eq_some_iff.1 digits)
  · intro literal
    cases literal with
    | plain read =>
      cases text with
      | nil => exact absurd rfl read.nonempty
      | cons first rest =>
        rw [signed?_of_digit (read.all first List.mem_cons_self), decimal?_eq_some_iff.2 read]
        rfl
    | plus read | minus read =>
      rw [signed?, decimal?_eq_some_iff.2 read]
      rfl

/-- A literal has no blanks. -/
theorem Literal.free {text : List Char} {value : Int} (literal : Literal text value) :
    ∀ character ∈ text, Text.isBlank character = false := by
  cases literal with
  | plain read => exact fun character member => Text.isBlank_of_isDigit (read.all character member)
  | plus read | minus read =>
    intro character member
    rcases List.mem_cons.1 member with rfl | inDigits
    · decide
    · exact Text.isBlank_of_isDigit (read.all character inDigits)

/-- A text is read as a count exactly if it is a literal of the count, which must be one. -/
theorem count?_eq_some_iff {text : List Char} {value : Int} :
    count? text = some value ↔ Literal text value ∧ IsCount value := by
  rw [count?, Option.bind_eq_some_iff]
  constructor
  · rintro ⟨read, signed, within⟩
    obtain ⟨range, rfl⟩ := within?_eq_some_iff.1 within
    exact ⟨signed?_eq_some_iff.1 signed, range⟩
  · rintro ⟨literal, range⟩
    exact ⟨value, signed?_eq_some_iff.2 literal, within?_eq_some_iff.2 ⟨range, rfl⟩⟩

end Whole

/-! ## Comparisons -/

/-- What follows other characters in a bare text ends as the text does, so trimming it takes blanks
off its front only. -/
theorem Text.exists_trim_of_bare {front rest : List Char} (bare : Bare (front ++ rest)) :
    ∃ blanks, AllBlank blanks ∧ rest = blanks ++ trim rest := by
  obtain ⟨blanks, back, blankFront, blankBack, split, _⟩ := exists_trim rest
  cases ending : back.getLast? with
  | none =>
    rw [List.getLast?_eq_none_iff.1 ending, List.append_nil] at split
    exact ⟨blanks, blankFront, split⟩
  | some last =>
    have isLast : last ∈ (front ++ rest).getLast? := by
      rw [split, ← List.append_assoc, List.getLast?_append, ending]
      rfl
    have blank := blankBack last (List.mem_of_getLast? ending)
    rw [bare.2 last isLast] at blank
    cases blank

/-- A text is a comparison with a number: blanks around it apart, it is the sign of the comparison,
blanks or none, and a literal of the number. -/
def Compares (text : String) (value : Int) : Prop :=
  ∃ blanks literal, Text.trim text.toList = ">=".toList ++ blanks ++ literal ∧
    Text.AllBlank blanks ∧ Whole.Literal literal value

/-- Whatever follows the sign of a comparison is the literal of a number, behind blanks or none,
exactly if the text is a comparison with the number. -/
theorem compares_iff {text : String} {rest : List Char}
    (begins : Text.trim text.toList = '>' :: '=' :: rest) {value : Int} :
    Compares text value ↔ Whole.Literal (Text.trim rest) value := by
  constructor
  · rintro ⟨blanks, literal, split, blank, isLiteral⟩
    have same : rest = blanks ++ literal := by
      rw [begins] at split
      exact (List.cons.inj (List.cons.inj split).2).2
    have bare := Text.bare_iff_trim.2 (Text.trim_of_free isLiteral.free)
    have trimmed := Text.trim_between blank bare Text.allBlank_nil
    rw [List.append_nil] at trimmed
    rw [same, trimmed]
    exact isLiteral
  · intro isLiteral
    obtain ⟨_, _, _, _, _, bare⟩ := Text.exists_trim text.toList
    rw [begins] at bare
    have bareSign : Text.Bare (['>', '='] ++ rest) := bare
    obtain ⟨blanks, blank, split⟩ := Text.exists_trim_of_bare bareSign
    refine ⟨blanks, Text.trim rest, ?_, blank, isLiteral⟩
    rw [begins, List.append_assoc, ← split]
    rfl

/-- A text compares with one number at most. -/
theorem Compares.unique {text : String} {value other : Int} (one : Compares text value)
    (another : Compares text other) : value = other := by
  obtain ⟨blanks, literal, split, _⟩ := id one
  have begins : Text.trim text.toList = '>' :: '=' :: (blanks ++ literal) := split
  have read := Whole.signed?_eq_some_iff.2 ((compares_iff begins).1 one)
  rw [Whole.signed?_eq_some_iff.2 ((compares_iff begins).1 another)] at read
  exact (Option.some.inj read).symm

namespace WaitCondition

open Whole

/-- A comparison holds a count exactly if it compares with it and it has 32 bits. -/
theorem countIn?_eq_some_iff {text : String} {count : Int} :
    countIn? text.toList = some count ↔ Compares text count ∧ IsCount count := by
  unfold countIn?
  split
  · rename_i rest begins
    rw [count?_eq_some_iff, compares_iff begins]
  · rename_i other
    refine ⟨(nomatch ·), fun holds => ?_⟩
    obtain ⟨⟨blanks, literal, split, _⟩, _⟩ := holds
    exact absurd split (other (blanks ++ literal))

/-- What a wait asks for: the count in its comparison, or one if there is none. -/
theorem required_eq_iff {condition : WaitCondition} {count : Int} :
    condition.required = count ↔
      Compares condition.comparator count ∧ IsCount count ∨
        count = 1 ∧ ∀ other, Compares condition.comparator other → ¬ IsCount other := by
  rw [required]
  cases found : countIn? condition.comparator.toList with
  | none =>
    have nothing (other : Int) : ¬ (Compares condition.comparator other ∧ IsCount other) := by
      rw [← countIn?_eq_some_iff, found]
      exact (Option.some_ne_none other).symm
    constructor
    · intro isOne
      exact .inr ⟨isOne.symm, fun other compares isCount => nothing other ⟨compares, isCount⟩⟩
    · rintro (holds | ⟨isOne, _⟩)
      · exact absurd holds (nothing count)
      · exact isOne.symm
  | some held =>
    have holds := countIn?_eq_some_iff.1 found
    constructor
    · rintro rfl
      exact .inl holds
    · rintro (⟨compares, _⟩ | ⟨_, nothing⟩)
      · exact holds.1.unique compares
      · exact absurd holds.2 (nothing held holds.1)

/-- Counts survive their text. A wait made for a count asks for this count and is over when the
player carries so many or more. Whatever the text of a comparison is, the wait asks for the number
it compares with, if this is a count, and for one otherwise; a number beyond the counts is as good
as none. -/
theorem thresholds_survive_their_text :
    (∀ item threshold, IsCount threshold →
      (atLeast item threshold).required = threshold ∧
        ∀ count, (atLeast item threshold).isMet count = true ↔ threshold ≤ count) ∧
    ∀ condition : WaitCondition,
      (∀ count, condition.required = count ↔
        Compares condition.comparator count ∧ IsCount count ∨
          count = 1 ∧ ∀ other, Compares condition.comparator other → ¬ IsCount other) ∧
      ∀ number, Compares condition.comparator number → ¬ IsCount number →
        condition.required = 1 := by
  refine ⟨fun item threshold isCount => ?_, fun condition =>
    ⟨fun count => required_eq_iff, fun number compares beyond => ?_⟩⟩
  · have asked := required_atLeast item isCount.1 isCount.2
    refine ⟨asked, fun count => ?_⟩
    rw [isMet, asked, decide_eq_true_eq]
  · refine required_eq_iff.2 (.inr ⟨rfl, fun other compares' => ?_⟩)
    rw [← compares.unique compares']
    exact beyond

/-- The least count survives, and a count may be written with blanks, a sign and zeros that it does
not need; one more than the largest count is no count. -/
theorem least_count_survives :
    (IsCount (-2147483648) ∧ (atLeast 60000 (-2147483648)).required = -2147483648 ∧
      (atLeast 60000 (-2147483648)).isMet (-2147483648) = true) ∧
    (Compares " >= \t+007 " 7 ∧ IsCount 7 ∧
      { atLeast 60000 3 with comparator := " >= \t+007 " }.required = 7) ∧
    (Compares ">=2147483648" 2147483648 ∧ ¬ IsCount 2147483648 ∧
      { atLeast 60000 3 with comparator := ">=2147483648" }.required = 1) := by
  obtain ⟨made, read⟩ := thresholds_survive_their_text
  have least : IsCount (-2147483648) := ⟨by decide, by decide⟩
  have blank : Text.AllBlank [' ', '\t'] := List.all_eq_true.1 (by decide)
  have zeros : Digits ['0', '0', '7'] 7 := ⟨by decide, List.all_eq_true.1 (by decide), by cbv⟩
  have seven : Compares " >= \t+007 " 7 :=
    ⟨[' ', '\t'], ['+', '0', '0', '7'], by cbv, blank, .plus zeros⟩
  have digits : Digits "2147483648".toList 2147483648 :=
    ⟨by decide, List.all_eq_true.1 (by decide), by cbv⟩
  have beyond : Compares ">=2147483648" 2147483648 :=
    ⟨[], "2147483648".toList, by cbv, Text.allBlank_nil, .plain digits⟩
  have isCount : IsCount 7 := ⟨by decide, by decide⟩
  have isNone : ¬ IsCount 2147483648 := fun fits => absurd fits.2 (by decide)
  obtain ⟨asked, met⟩ := made 60000 (-2147483648) least
  exact ⟨⟨least, asked, (met _).2 le_rfl⟩,
    ⟨seven, isCount, ((read _).1 7).2 (.inl ⟨seven, isCount⟩)⟩,
    ⟨beyond, isNone, (read _).2 _ beyond isNone⟩⟩

end WaitCondition

end Modpack
