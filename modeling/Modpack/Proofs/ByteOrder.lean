import Mathlib.Algebra.Group.Nat.Defs

/-!
# The order of texts is that of their bytes

A character takes one to four bytes: the lowest groups of six bits of its number in the last ones,
what is above them in the first one, together with a mark that tells how many follow. A greater
number has a greater first byte, or the same first byte and greater groups. So texts compared
character by character, and texts compared byte by byte, stand in the same order.
-/
namespace Modpack.Text

/-- The bytes of a text. -/
def bytes (text : String) : List UInt8 :=
  text.toUTF8.data.toList

/-- The bytes of a text are those of its characters, one after the other. -/
theorem bytes_eq_flatMap (text : String) :
    bytes text = text.toList.flatMap String.utf8EncodeChar := by
  obtain ⟨letters, rfl⟩ : ∃ letters, text = String.ofList letters := ⟨text.toList, by simp⟩
  unfold bytes
  simp [List.utf8Encode]

/-! ## Numbers in groups of six bits -/

/-- The lowest groups of six bits of a number, each in a byte of its own. -/
def lowerGroups : Nat → Nat → List UInt8
  | 0, _ => []
  | count + 1, number => lowerGroups count (number / 64) ++ [UInt8.ofNat (number % 64 + 128)]

/-- A number in bytes: first a mark with what is above the lowest groups, then these. -/
def spelled (mark count number : Nat) : List UInt8 :=
  UInt8.ofNat (number / 64 ^ count + mark) :: lowerGroups count number

/-- The last byte carries the lowest group. -/
theorem spelled_succ (mark count number : Nat) : spelled mark (count + 1) number =
    spelled mark count (number / 64) ++ [UInt8.ofNat (number % 64 + 128)] := by
  unfold spelled
  rw [lowerGroups, Nat.pow_succ', Nat.div_div_eq_div_mul, List.cons_append]

/-- Bytes are compared as the numbers they stand for. -/
theorem ofNat_lt {left right : Nat} (below : left < right) (small : right < 256) :
    UInt8.ofNat left < UInt8.ofNat right := by
  rw [UInt8.lt_iff_toNat_lt, UInt8.toNat_ofNat', UInt8.toNat_ofNat']
  omega

/-- Numbers in the same number of bytes are compared byte by byte. -/
theorem spelled_lt {mark count left right : Nat} (below : left < right)
    (small : right / 64 ^ count + mark < 256) (rest rest' : List UInt8) :
    spelled mark count left ++ rest < spelled mark count right ++ rest' := by
  induction count generalizing left right rest rest' with
  | zero =>
    rw [Nat.pow_zero, Nat.div_one] at small
    apply List.cons_lt_cons_iff.2
    left
    apply ofNat_lt
    · omega
    · omega
  | succ count ih =>
    rw [Nat.pow_succ', ← Nat.div_div_eq_div_mul] at small
    rw [spelled_succ, spelled_succ, List.append_assoc, List.append_assoc]
    by_cases higher : left / 64 < right / 64
    · exact ih higher small _ _
    · -- All groups but the lowest agree.
      have same : left / 64 = right / 64 := by omega
      have last : left % 64 < right % 64 := by omega
      rw [same]
      apply List.append_left_lt
      apply List.cons_lt_cons_iff.2
      left
      apply ofNat_lt
      · omega
      · omega

/-! ## Characters -/

/-- The mark of the first byte of a character, and how many bytes follow. -/
inductive Shape (number : Nat) : Nat → Nat → Prop
  | one (small : number ≤ 0x7f) : Shape number 0 0
  | two (large : 0x7f < number) (small : number ≤ 0x7ff) : Shape number 0xc0 1
  | three (large : 0x7ff < number) (small : number ≤ 0xffff) : Shape number 0xe0 2
  | four (large : 0xffff < number) (small : number < 0x110000) : Shape number 0xf0 3

/-- A character in bytes is its number in bytes. -/
theorem encoding_eq (character : Char) : ∃ mark count, Shape character.toNat mark count ∧
    String.utf8EncodeChar character = spelled mark count character.toNat := by
  have small : character.toNat < 0x110000 := by
    have valid : character.toNat.isValidChar := character.valid
    unfold Nat.isValidChar at valid
    omega
  unfold String.utf8EncodeChar
  simp only [Char.toNat_val]
  by_cases one : character.toNat ≤ 0x7f
  · refine ⟨_, _, .one one, ?_⟩
    simp [one, spelled, lowerGroups]
  · by_cases two : character.toNat ≤ 0x7ff
    · have top : character.toNat / 64 % 32 = character.toNat / 64 := by omega
      refine ⟨_, _, .two (by omega) two, ?_⟩
      simp [one, two, spelled, lowerGroups, top]
    · by_cases three : character.toNat ≤ 0xffff
      · have top : character.toNat / 4096 % 16 = character.toNat / 4096 := by omega
        refine ⟨_, _, .three (by omega) three, ?_⟩
        simp [one, two, three, spelled, lowerGroups, top]
      · have top : character.toNat / 262144 % 8 = character.toNat / 262144 := by omega
        refine ⟨_, _, .four (by omega) small, ?_⟩
        simp [one, two, three, spelled, lowerGroups, top, Nat.div_div_eq_div_mul]

/-- A character of a greater number is greater in bytes, whatever follows. -/
theorem encoding_lt {left right : Char} (below : left.toNat < right.toNat)
    (rest rest' : List UInt8) :
    String.utf8EncodeChar left ++ rest < String.utf8EncodeChar right ++ rest' := by
  obtain ⟨mark, count, shape, spelt⟩ := encoding_eq left
  obtain ⟨mark', count', shape', spelt'⟩ := encoding_eq right
  rw [spelt, spelt']
  generalize left.toNat = low at below shape ⊢
  generalize right.toNat = high at below shape' ⊢
  have first : high / 64 ^ count' + mark' < 256 := by
    cases shape' <;> omega
  have marks : mark = mark' ∧ count = count' ∨
      low / 64 ^ count + mark < high / 64 ^ count' + mark' := by
    cases shape <;> cases shape' <;> omega
  rcases marks with ⟨rfl, rfl⟩ | lower
  · exact spelled_lt below first rest rest'
  · apply List.cons_lt_cons_iff.2
    left
    exact ofNat_lt lower first

/-! ## Texts -/

/-- A smaller text is smaller in bytes. -/
theorem flatMap_encoding_lt {left right : List Char} (below : left < right) :
    left.flatMap String.utf8EncodeChar < right.flatMap String.utf8EncodeChar := by
  induction left generalizing right with
  | nil =>
    cases right with
    | nil => exact absurd below (List.lt_irrefl [])
    | cons character more =>
      obtain ⟨byte, bytes, spelt⟩ := List.exists_cons_of_ne_nil
        (String.utf8EncodeChar_ne_nil (c := character))
      rw [List.flatMap_nil, List.flatMap_cons, spelt]
      exact List.nil_lt_cons _ _
  | cons first rest ih =>
    cases right with
    | nil => cases below
    | cons character more =>
      rw [List.flatMap_cons, List.flatMap_cons]
      rcases List.cons_lt_cons_iff.1 below with lower | ⟨rfl, later⟩
      · exact encoding_lt lower _ _
      · exact List.append_left_lt (ih later)

/-- Texts stand in the order of their bytes. -/
theorem bytes_lt_iff {left right : String} : bytes left < bytes right ↔ left < right := by
  have grows {left right : String} (below : left < right) : bytes left < bytes right := by
    rw [bytes_eq_flatMap, bytes_eq_flatMap]
    exact flatMap_encoding_lt below
  refine ⟨fun below => ?_, grows⟩
  apply String.not_le.1
  intro notLess
  by_cases same : left = right
  · rw [same] at below
    exact List.lt_irrefl _ below
  · have more : right < left := by
      apply String.not_le.1
      intro notMore
      exact same (String.le_antisymm notMore notLess)
    exact List.lt_asymm below (grows more)

/-- Texts that stand in ascending order of their bytes. -/
def Ascending (texts : List String) : Prop :=
  texts.Pairwise fun left right => bytes left < bytes right

/-- Ascending by bytes is ascending as texts. -/
theorem ascending_iff (texts : List String) :
    Ascending texts ↔ texts.Pairwise fun left right => left < right := by
  unfold Ascending
  simp only [bytes_lt_iff]

end Modpack.Text
