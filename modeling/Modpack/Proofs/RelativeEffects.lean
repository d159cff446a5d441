import Mathlib.Data.List.Basic
import Modpack.Effect.Expression
import Modpack.Proofs.OppositeNumbers
import Modpack.Proofs.TrimmedCase
import Modpack.Proofs.WaitCounts

/-!
# Effects that add and effects that take away

Behind `add:` and behind a plus sign the same number is read, blanks in front of it included. The
two marks are of different kind for lower case, since a colon is passed over where a word may end,
but that decides on sigmas only and no number has one. A minus sign belongs to the number that it
stands before. What follows it is the number that would be added, and the opposite is added instead,
unless a blank follows: then the sign and the number are apart, and the text fits no form.
-/
namespace Modpack

/-! ## Numbers in small letters -/

namespace Text

/-- Characters of a text in front that are their own lower case stay as they are. -/
theorem lowerFrom_append_small {front : List Char}
    (small : ∀ character ∈ front,
      character.toNat ≠ capitalSigma ∧ lowerChar character = [character])
    (before text : List Char) :
    lowerFrom before (front ++ text) = front ++ lowerFrom (front.reverse ++ before) text := by
  induction front generalizing before with
  | nil => rfl
  | cons character rest ih =>
    obtain ⟨other, own⟩ := small character List.mem_cons_self
    have later := ih (fun next member => small next (List.mem_cons_of_mem _ member))
      (character :: before)
    rw [List.cons_append, lowerFrom_cons_other other, own, later, List.reverse_cons,
      List.append_assoc]
    rfl

/-- A text without capital sigmas has the same lower case in every context. -/
theorem lowerFrom_of_no_sigma {text : List Char}
    (free : ∀ character ∈ text, character.toNat ≠ capitalSigma) (before before' : List Char) :
    lowerFrom before text = lowerFrom before' text := by
  induction text generalizing before before' with
  | nil => rfl
  | cons character rest ih =>
    have other := free character List.mem_cons_self
    have later := ih (fun next member => free next (List.mem_cons_of_mem _ member))
      (character :: before) (character :: before')
    rw [lowerFrom_cons_other other, lowerFrom_cons_other other, later]

/-- A text with a capital sigma has a small one in its lower case. -/
theorem exists_sigma_of_mem {text : List Char} {sigma : Char} (member : sigma ∈ text)
    (isSigma : sigma.toNat = capitalSigma) (before : List Char) :
    ∃ small ∈ lowerFrom before text, small = Char.ofNat 0x3C2 ∨ small = Char.ofNat 0x3C3 := by
  induction text generalizing before with
  | nil => cases member
  | cons character rest ih =>
    rcases List.mem_cons.1 member with rfl | later
    · rw [lowerFrom_cons_sigma isSigma]
      refine ⟨_, List.mem_cons_self, ?_⟩
      split
      · exact .inl rfl
      · exact .inr rfl
    · obtain ⟨small, among, isSmall⟩ := ih later (character :: before)
      exact ⟨small, by rw [lowerFrom]; exact List.mem_append_right _ among, isSmall⟩

/-- A character of a number is no blank. -/
theorem isBlank_of_isNumeral {character : Char} (numeral : Decimal.isNumeral character = true) :
    isBlank character = false := by
  rw [Decimal.isNumeral, Bool.or_eq_true, decide_eq_true_eq] at numeral
  rcases numeral with digit | mark
  · exact isBlank_of_isDigit digit
  · have marks : (['+', '-', '.', 'e', 'E'].all fun mark => !isBlank mark) = true := by
      decide
    simpa using List.all_eq_true.1 marks character mark

end Text

namespace Effect.Expression

open Modpack.Text

/-- A number with blanks around it is written in the characters of numbers and blanks. -/
theorem isNumeral_of_number? {text : List Char} {value : Float} (read : number? text = some value) :
    ∀ character ∈ text, Decimal.isNumeral character = true ∨ isBlank character = true := by
  obtain ⟨front, back, blankFront, blankBack, split, _⟩ := exists_trim text
  intro character member
  rw [split, List.mem_append, List.mem_append] at member
  rcases member with (before | inside) | behind
  · exact .inr (blankFront character before)
  · exact .inl (Decimal.isNumeral_of_finite? read character inside)
  · exact .inr (blankBack character behind)

/-- No number is read from a text with a small sigma. -/
theorem number?_of_sigma {text : List Char} {sigma : Char} (member : sigma ∈ text)
    (isSigma : sigma = Char.ofNat 0x3C2 ∨ sigma = Char.ofNat 0x3C3) : number? text = none := by
  cases read : number? text with
  | none => rfl
  | some value =>
    have found := isNumeral_of_number? read sigma member
    rcases isSigma with rfl | rfl
    · exact absurd found (by decide)
    · exact absurd found (by decide)

/-- The number that is read from a mark and the lower case of a text does not depend on what stands
before the text: only sigmas do, and no number has one. -/
theorem number?_lowerFrom (front before before' text : List Char) :
    number? (front ++ lowerFrom before text) = number? (front ++ lowerFrom before' text) := by
  by_cases free : ∀ character ∈ text, character.toNat ≠ capitalSigma
  · rw [lowerFrom_of_no_sigma free before before']
  · push Not at free
    obtain ⟨sigma, member, isSigma⟩ := free
    obtain ⟨first, among, isFirst⟩ := exists_sigma_of_mem member isSigma before
    obtain ⟨second, among', isSecond⟩ := exists_sigma_of_mem member isSigma before'
    rw [number?_of_sigma (List.mem_append_right front among) isFirst,
      number?_of_sigma (List.mem_append_right front among') isSecond]

/-- An expression is built from the number and depends on nothing else. -/
theorem ofNumber_congr (build : Float → Expression) {left right : List Char}
    (same : number? left = number? right) : ofNumber build left = ofNumber build right := by
  rw [ofNumber, ofNumber, same]

/-- An addition is read exactly from its number. -/
theorem ofNumber_add_eq_iff {text : List Char} {value : Float} :
    ofNumber add text = add value ↔ number? text = some value := by
  rw [ofNumber]
  cases number? text <;> simp

/-! ## Marks -/

/-- What follows the mark that a text begins with. -/
theorem after?_append (mark rest : List Char) : after? mark (mark ++ rest) = some rest := by
  rw [after?, if_pos (List.isPrefixOf_iff_prefix.2 (List.prefix_append mark rest)),
    List.drop_left]

/-- Behind `add:` a number is read. -/
theorem ofLowered_add (rest : List Char) :
    ofLowered ("add:".toList ++ rest) = ofNumber add rest := by
  rw [ofLowered, if_neg (by simp), if_neg (by simp), after?_append]

/-- Behind a plus sign a number is read. -/
theorem ofLowered_plus (rest : List Char) : ofLowered ('+' :: rest) = ofNumber add rest := by
  rw [ofLowered, if_neg (by simp), if_neg (by simp)]
  rfl

/-- With a minus sign a number is read. -/
theorem ofLowered_minus (rest : List Char) :
    ofLowered ('-' :: rest) = ofNumber add ('-' :: rest) := by
  rw [ofLowered, if_neg (by simp), if_neg (by simp)]
  rfl

/-- Whether a text is a mark: some characters that are neither blanks nor capital sigmas, each its
own lower case. -/
def isMark (mark : List Char) : Bool :=
  !mark.isEmpty && mark.all fun character =>
    !isBlank character && character.toNat ≠ capitalSigma && lowerChar character = [character]

/-- The marks of additions. -/
theorem isMark_marks : (["+", "-", "add:"].all fun mark => isMark mark.toList) = true := by
  decide

/-- What is known of a mark and each of its characters. -/
theorem isMark_iff {mark : List Char} :
    isMark mark = true ↔ mark ≠ [] ∧ ∀ character ∈ mark, isBlank character = false ∧
      character.toNat ≠ capitalSigma ∧ lowerChar character = [character] := by
  simp [isMark, and_assoc]

/-- A mark has no blank at its ends. -/
theorem bare_of_isMark {mark : List Char} (marked : isMark mark = true) : Bare mark := by
  have each := (isMark_iff.1 marked).2
  exact ⟨fun first found => (each first (List.mem_of_head? found)).1,
    fun last found => (each last (List.mem_of_getLast? found)).1⟩

/-- A text behind a mark is read without the blanks at its end and in small letters. -/
theorem ofText_mark {mark text : String} {kept back : List Char}
    (marked : isMark mark.toList = true) (split : text.toList = kept ++ back)
    (blank : AllBlank back) (ends : ∀ last ∈ kept.getLast?, isBlank last = false) :
    ofText (mark ++ text) = ofLowered (mark.toList ++ lowerFrom mark.toList.reverse kept) := by
  obtain ⟨some, each⟩ := isMark_iff.1 marked
  rw [ofText, String.toList_append, split, trim_mark (bare_of_isMark marked) some ends blank, lower,
    lowerFrom_append_small fun character member => (each character member).2, List.append_nil]

/-- Whether a text begins with a blank. -/
def beginsBlank (text : String) : Bool :=
  text.toList.head?.any isBlank

section Marked

variable {text : String} {kept back : List Char} (split : text.toList = kept ++ back)
  (blank : AllBlank back) (ends : ∀ last ∈ kept.getLast?, isBlank last = false)

include split blank ends

/-- Behind a plus sign a number is read from the lower case of a text. -/
theorem ofText_plus : ofText ("+" ++ text) = ofNumber add (lower kept) := by
  have marked := List.all_eq_true.1 isMark_marks "+" (by simp)
  rw [ofText_mark marked split blank ends]
  exact (ofLowered_plus _).trans (ofNumber_congr add (number?_lowerFrom [] _ _ kept))

/-- Behind `add:` a number is read from the lower case of a text. -/
theorem ofText_add : ofText ("add:" ++ text) = ofNumber add (lower kept) := by
  have marked := List.all_eq_true.1 isMark_marks "add:" (by simp)
  rw [ofText_mark marked split blank ends, ofLowered_add]
  exact ofNumber_congr add (number?_lowerFrom [] _ _ kept)

/-- With a minus sign a number is read from the lower case of a text. -/
theorem ofText_minus : ofText ("-" ++ text) = ofNumber add ('-' :: lower kept) := by
  have marked := List.all_eq_true.1 isMark_marks "-" (by simp)
  rw [ofText_mark marked split blank ends]
  exact (ofLowered_minus _).trans (ofNumber_congr add (number?_lowerFrom ['-'] _ _ kept))

end Marked

/-! ## The opposite -/

/-- Lower case spares the signs. -/
theorem spares_signs : spares [('+'.toNat, '+'.toNat), ('-'.toNat, '-'.toNat)] = true := by
  decide

/-- The lower case of a text begins with a sign only if the text does. -/
theorem head?_lower_ne {text : List Char} {sign : Char} (isSign : sign = '+' ∨ sign = '-')
    (apart : text.head? ≠ some sign) : (lower text).head? ≠ some sign := by
  intro found
  refine apart (head?_of_lower spares_signs found ?_)
  rcases isSign with rfl | rfl
  · decide
  · decide

/-- No number is read where a blank stands between the sign and the rest. -/
theorem number?_minus_of_blank {first : Char} (isBlank : isBlank first = true) {rest : List Char}
    (trimmed : trim ('-' :: first :: rest) = '-' :: first :: rest) :
    number? ('-' :: first :: rest) = none := by
  cases read : number? ('-' :: first :: rest) with
  | none => rfl
  | some value =>
    rw [number?, trimmed] at read
    have member : first ∈ '-' :: first :: rest := List.mem_cons_of_mem _ List.mem_cons_self
    have numeral := Decimal.isNumeral_of_finite? read first member
    rw [isBlank_of_isNumeral numeral] at isBlank
    cases isBlank

/-- Where a number without a sign is added behind a plus sign, its opposite is added behind a minus
sign, and nothing is read if a blank follows that sign. -/
theorem ofText_minus_of_plus {text : String} {value : Float}
    (plus : (trim text.toList).head? ≠ some '+') (minus : (trim text.toList).head? ≠ some '-')
    (read : ofText ("+" ++ text) = add value) :
    ofText ("-" ++ text) = if beginsBlank text then invalid else add (-value) := by
  obtain ⟨kept, back, blank, split, ends⟩ := exists_trimEnd text.toList
  rw [ofText_plus split blank ends, ofNumber_add_eq_iff] at read
  rw [ofText_minus split blank ends]
  have marked : isMark ['-'] = true := List.all_eq_true.1 isMark_marks "-" (by simp)
  have trimmed : trim ('-' :: lower kept) = '-' :: lower kept := by
    have whole := trim_mark (bare_of_isMark marked) (isMark_iff.1 marked).1 (ends_lower ends)
      allBlank_nil
    rwa [List.append_nil, List.singleton_append] at whole
  cases kept with
  | nil => cases read
  | cons first rest =>
    have begins : beginsBlank text = isBlank first := by rw [beginsBlank, split]; rfl
    rw [begins]
    by_cases isBlank : isBlank first = true
    · -- The blank stays between the sign and the number.
      have small : lower (first :: rest) = first :: lower rest :=
        lowerFrom_cons_blank isBlank [] rest
      rw [small] at trimmed ⊢
      rw [if_pos isBlank, ofNumber, number?_minus_of_blank isBlank trimmed]
    · have bare : Bare (first :: rest) := by
        refine ⟨fun other found => ?_, ends⟩
        obtain rfl := Option.some.inj found
        exact Bool.eq_false_iff.2 isBlank
      have inside : trim text.toList = first :: rest := by
        rw [split]
        exact trim_between allBlank_nil bare blank
      rw [inside] at plus minus
      rw [number?, bare_iff_trim.1 bare.lower] at read
      have opposite : number? ('-' :: lower (first :: rest)) = some (-value) := by
        rw [number?, trimmed, Decimal.finite?_minus (head?_lower_ne (.inl rfl) plus)
          (head?_lower_ne (.inr rfl) minus), read, Option.map_some]
      rw [if_neg isBlank, ofNumber_add_eq_iff, opposite]

end Effect.Expression

open Effect.Expression

/-- Behind `add:` and behind a plus sign every text is read alike. Where that gives the addition of
a number that is written without a sign of its own, and no blank comes first, a minus sign gives the
addition of the opposite, which takes the number away; if a blank comes first, the text with the
minus sign fits no form. -/
theorem relative_forms_agree (text : String) :
    ofText ("add:" ++ text) = ofText ("+" ++ text) ∧
    ∀ value, (Text.trim text.toList).head? ≠ some '+' → (Text.trim text.toList).head? ≠ some '-' →
      ofText ("+" ++ text) = .add value →
      (beginsBlank text = false → ofText ("-" ++ text) = .add (-value) ∧
        ∀ current largest, (ofText ("-" ++ text)).apply current largest = current - value) ∧
      (beginsBlank text = true → ofText ("-" ++ text) = .invalid) := by
  constructor
  · obtain ⟨kept, back, blank, split, ends⟩ := Text.exists_trimEnd text.toList
    rw [ofText_add split blank ends, ofText_plus split blank ends]
  · intro value plus minus read
    have opposite := ofText_minus_of_plus plus minus read
    constructor
    · intro begins
      rw [begins, if_neg Bool.false_ne_true] at opposite
      refine ⟨opposite, fun current largest => ?_⟩
      rw [opposite]
      exact Numerical.add_neg current value
    · intro begins
      rw [opposite, begins, if_pos rfl]

/-- A stew that warms by two and a half tens cools by as much with the other sign. -/
theorem stew_warms_and_cools :
    let text := "2.5E1 "
    (Text.trim text.toList).head? ≠ some '+' ∧ (Text.trim text.toList).head? ≠ some '-' ∧
      beginsBlank text = false ∧ ofText ("add:" ++ text) = .add 25.0 ∧
      ofText ("+" ++ text) = .add 25.0 ∧ ofText ("-" ++ text) = .add (-25.0) ∧
      (ofText ("-" ++ text)).apply 40.0 100.0 = 40.0 - 25.0 := by
  intro text
  have plus : (Text.trim text.toList).head? ≠ some '+' := by decide
  have minus : (Text.trim text.toList).head? ≠ some '-' := by decide
  have begins : beginsBlank text = false := by decide
  have read : ofText ("+" ++ text) = .add 25.0 := by decide
  obtain ⟨alike, opposite⟩ := relative_forms_agree text
  obtain ⟨cools, applied⟩ := (opposite 25.0 plus minus read).1 begins
  exact ⟨plus, minus, begins, alike.trans read, read, cools, applied 40.0 100.0⟩

/-- A blank behind the mark does not matter to the plus sign, and makes the text with the minus sign
fit no form. -/
theorem blank_parts_minus :
    let text := " 5"
    (Text.trim text.toList).head? ≠ some '+' ∧ (Text.trim text.toList).head? ≠ some '-' ∧
      ofText ("+" ++ text) = .add 5.0 ∧ ofText ("-" ++ text) = .invalid ∧
      ofText ("-" ++ text) ≠ .add (-5.0) := by
  decide

end Modpack
