import Mathlib
import Modpack.Number.Decimal

/-!
# Numbers with the opposite sign

The sign of a double is a part of its own in the encoding, so the opposite of a number decodes to
the opposite of what the number decodes to. Adding the opposite is subtracting, then, rounding
included, and the opposite of a finite number is finite. In text the opposite of a number without a
sign is the same text behind a minus sign.
-/
open Float.Model (UnpackedFloat)
open Float.Model.UnpackedFloat (Sign packComponents unpackSign unpackExponent unpackMantissa)

namespace Modpack

/-! ## Doubles -/

namespace Numerical

/-- An encoding with the opposite sign. -/
def opposite (spec : Float.Model.Format) (bits : BitVec spec.numBits) : BitVec spec.numBits :=
  packComponents spec (-Sign.ofBitVec (unpackSign bits)) (unpackExponent bits) (unpackMantissa bits)

variable {spec : Float.Model.Format} (bits : BitVec spec.numBits)

/-- An encoding with the opposite sign decodes to the opposite. -/
theorem unpack_opposite :
    UnpackedFloat.unpack spec (opposite spec bits) = (UnpackedFloat.unpack spec bits).neg := by
  simp only [UnpackedFloat.unpack, opposite, UnpackedFloat.unpackMantissa_packComponents,
    UnpackedFloat.unpackExponent_packComponents, UnpackedFloat.unpackSign_packComponents,
    UnpackedFloat.Sign.ofBitVec_toBitVec]
  -- The exponent and the mantissa, and not the sign, tell which kind of number it is.
  split
  · split <;> rfl
  · split
    · split <;> rfl
    · rfl

/-- What was decoded decodes to itself when it is encoded again. -/
theorem unpack_pack_unpack (wide : 2 ≤ spec.exponentBits) :
    UnpackedFloat.unpack spec (UnpackedFloat.pack spec (UnpackedFloat.unpack spec bits)) =
      UnpackedFloat.unpack spec bits := by
  rw [UnpackedFloat.pack_unpack bits wide]
  split
  · rename_i nan
    obtain ⟨exponent, mantissa⟩ := of_decide_eq_true nan
    rw [UnpackedFloat.unpack_packedNaN, UnpackedFloat.unpack, if_pos exponent, if_neg mantissa]
  · rfl

/-- The opposite of a number decodes to the opposite of what the number decodes to. -/
theorem unpack_neg (value : Float) : (-value).toModel.unpack = value.toModel.unpack.neg := by
  let bits : BitVec Float.Model.Format.binary64.numBits := value.toModel.toBits.toBitVec
  change UnpackedFloat.unpack _ (UnpackedFloat.pack _ (UnpackedFloat.unpack _ bits).neg) =
    (UnpackedFloat.unpack _ bits).neg
  rw [← unpack_opposite]
  exact unpack_pack_unpack _ (by decide)

/-- A decoded number and the opposite of another one add up to their difference. -/
theorem unpacked_add_neg (left right : UnpackedFloat) :
    UnpackedFloat.add spec left right.neg = UnpackedFloat.sub spec left right := by
  cases left with
  | notANumber => rfl
  | infinity sign => cases right <;> rfl
  | zero sign => cases right <;> rfl
  | finite sign mantissa exponent positive =>
    cases right with
    | finite other mantissa' exponent' positive' =>
      have apply_neg (value : Int) : (-other).apply value = -other.apply value := by
        cases other
        · exact (Int.neg_neg value).symm
        · rfl
      simp only [UnpackedFloat.neg, UnpackedFloat.add, UnpackedFloat.sub, apply_neg,
        Int.sub_eq_add_neg]
    | _ => rfl

/-- Adding the opposite of a number is subtracting the number. -/
theorem add_neg (left right : Float) : left + -right = left - right := by
  change Float.ofModel (Float.Model.pack
      (UnpackedFloat.add _ left.toModel.unpack (-right).toModel.unpack)) =
    Float.ofModel (Float.Model.pack (UnpackedFloat.sub _ left.toModel.unpack right.toModel.unpack))
  rw [unpack_neg, unpacked_add_neg]

/-- The opposite of a number is finite exactly when the number is. -/
theorem isFinite_neg (value : Float) : (-value).isFinite = value.isFinite := by
  change (-value).toModel.unpack.isFinite = value.toModel.unpack.isFinite
  rw [unpack_neg]
  cases value.toModel.unpack <;> rfl

end Numerical

/-! ## Decimals -/

namespace Decimal

/-- A character that may stand in the text of a number. -/
def isNumeral (character : Char) : Bool :=
  character.isDigit || character ∈ ['+', '-', '.', 'e', 'E']

/-- A digit may stand in the text of a number. -/
theorem isNumeral_of_isDigit {character : Char} (digit : character.isDigit = true) :
    isNumeral character = true := by
  rw [isNumeral, digit, Bool.true_or]

/-- A text that continues a whole number is made of digits. -/
theorem isDigit_of_extend? {text : List Char} {value total : Nat}
    (read : Whole.extend? value text = some total) :
    ∀ character ∈ text, character.isDigit = true := by
  induction text generalizing value with
  | nil => exact fun _ member => nomatch member
  | cons first rest ih =>
    rw [Whole.extend?, Whole.digit?] at read
    by_cases digit : first.isDigit = true
    · rw [if_pos digit] at read
      intro character member
      rcases List.mem_cons.1 member with same | later
      · rw [same]
        exact digit
      · exact ih read character later
    · rw [if_neg digit] at read
      cases read

/-- A text that is read as a whole number is made of digits. -/
theorem isDigit_of_decimal? {text : List Char} {value : Nat}
    (read : Whole.decimal? text = some value) : ∀ character ∈ text, character.isDigit = true := by
  cases text with
  | nil => cases read
  | cons first rest => exact isDigit_of_extend? read

/-- A character of a text is its sign or stands behind it. -/
theorem mem_splitSign {text : List Char} {character : Char} (member : character ∈ text) :
    isNumeral character = true ∨ character ∈ (splitSign text).2 := by
  rw [splitSign.eq_def]
  split
  · exact (List.mem_cons.1 member).imp_left fun same => by rw [same]; decide
  · exact (List.mem_cons.1 member).imp_left fun same => by rw [same]; decide
  · exact .inr member

/-- An exponent is written in the characters of numbers. -/
theorem isNumeral_of_exponent? {text : List Char} {exponent : Int}
    (read : exponent? text = some exponent) : ∀ character ∈ text, isNumeral character = true := by
  cases text with
  | nil => exact fun _ member => nomatch member
  | cons mark rest =>
    rw [exponent?] at read
    by_cases isMark : mark = 'e' ∨ mark = 'E'
    · rw [if_pos isMark] at read
      obtain ⟨value, digits⟩ : ∃ value, Whole.decimal? (splitSign rest).2 = some value := by
        obtain ⟨_, lifted, _⟩ := Option.map_eq_some_iff.1 read
        obtain ⟨value, digits, _⟩ := Option.bind_eq_some_iff.1 lifted
        exact ⟨value, digits⟩
      intro character member
      rcases List.mem_cons.1 member with same | later
      · rw [same]
        rcases isMark with small | capital
        · rw [small]
          decide
        · rw [capital]
          decide
      · rcases mem_splitSign later with sign | behind
        · exact sign
        · exact isNumeral_of_isDigit (isDigit_of_decimal? digits character behind)
    · rw [if_neg isMark] at read
      cases read

/-- A number without a sign is written in the characters of numbers. -/
theorem isNumeral_of_unsigned? {text : List Char} {negative : Bool} {decimal : Scientific}
    (read : unsigned? negative text = some decimal) :
    ∀ character ∈ text, isNumeral character = true := by
  have leading (text : List Char) :
      ∀ character ∈ text.takeWhile Char.isDigit, isNumeral character = true :=
    fun character member => isNumeral_of_isDigit (List.mem_takeWhile_imp member)
  have split (text : List Char) {character : Char} (member : character ∈ text) :
      character ∈ text.takeWhile Char.isDigit ∨ character ∈ text.dropWhile Char.isDigit := by
    rw [← List.mem_append, List.takeWhile_append_dropWhile]
    exact member
  intro character member
  rcases split text member with whole | behind
  · exact leading text character whole
  · rw [unsigned?] at read
    split at read
    · rename_i rest point
      rw [point] at behind
      dsimp only at read
      split at read
      · cases read
      · obtain ⟨exponent, isExponent, _⟩ := Option.map_eq_some_iff.1 read
        rcases List.mem_cons.1 behind with same | later
        · rw [same]
          decide
        · rcases split rest later with fraction | last
          · exact leading rest character fraction
          · exact isNumeral_of_exponent? isExponent character last
    · split at read
      · cases read
      · obtain ⟨exponent, isExponent, _⟩ := Option.map_eq_some_iff.1 read
        exact isNumeral_of_exponent? isExponent character behind

/-- A finite number is written in the characters of numbers. -/
theorem isNumeral_of_finite? {text : List Char} {value : Float} (read : finite? text = some value) :
    ∀ character ∈ text, isNumeral character = true := by
  obtain ⟨decimal, number, _⟩ := Option.bind_eq_some_iff.1 read
  intro character member
  rcases mem_splitSign member with sign | behind
  · exact sign
  · exact isNumeral_of_unsigned? number character behind

/-- The sign is put before a number without one. -/
theorem unsigned?_sign (negative : Bool) (text : List Char) :
    unsigned? negative text =
      (unsigned? false text).map fun decimal => { decimal with negative } := by
  rw [unsigned?.eq_def, unsigned?.eq_def]
  dsimp only
  split
  · split
    · rfl
    · rw [Option.map_map]
      rfl
  · split
    · rfl
    · rw [Option.map_map]
      rfl

/-- A decimal without a sign is not negative. -/
theorem negative_of_unsigned? {text : List Char} {decimal : Scientific}
    (read : unsigned? false text = some decimal) : decimal.negative = false := by
  rw [unsigned?_sign] at read
  obtain ⟨unsigned, _, rfl⟩ := Option.map_eq_some_iff.1 read
  rfl

/-- Behind a minus sign stands the opposite of a finite number that is written without a sign. -/
theorem finite?_minus {text : List Char} (plus : text.head? ≠ some '+')
    (minus : text.head? ≠ some '-') :
    finite? ('-' :: text) = (finite? text).map fun value => -value := by
  have behind : splitSign text = (false, text) := by
    rw [splitSign.eq_def]
    split
    · exact absurd rfl minus
    · exact absurd rfl plus
    · rfl
  rw [finite?, finite?, number?, number?, behind, splitSign]
  dsimp only
  rw [unsigned?_sign true]
  cases read : unsigned? false text with
  | none => rfl
  | some decimal =>
    have opposite : { decimal with negative := true }.toFloat = -decimal.toFloat := by
      rw [Scientific.toFloat, Scientific.toFloat, negative_of_unsigned? read]
      rfl
    simp only [Option.map_some, Option.bind_some, opposite, Numerical.isFinite_neg]
    split <;> rfl

end Decimal

end Modpack
