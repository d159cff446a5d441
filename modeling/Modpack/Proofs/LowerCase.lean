import Modpack.Text.Lower

/-!
# Lower case in context

The lower case of a text depends on what stands before it in one respect only: whether the last
character before it that is not ignorable for case is a cased one. It is the text of a single
capital sigma that this decides: the first character of the text that is not ignorable, where no
cased character follows. Such a sigma becomes the final form after a cased character, and the other
form where the text stands alone. The number of characters does not depend on the context.
-/
namespace Modpack.Text

/-- A character that is ignorable for case is passed over, and any other one decides. -/
theorem casedNext_cons (character : Char) (rest : List Char) :
    casedNext (character :: rest) =
      if covers caseIgnorableRanges character then casedNext rest
      else covers casedRanges character := by
  by_cases ignorable : covers caseIgnorableRanges character = true
  · rw [casedNext, List.dropWhile_cons_of_pos ignorable, if_pos ignorable, casedNext]
  · rw [casedNext, List.dropWhile_cons_of_neg ignorable, if_neg ignorable]

/-- Characters before a text decide its lower case by being cased or not. -/
theorem lowerFrom_congr {before before' : List Char} (same : casedNext before = casedNext before')
    (text : List Char) : lowerFrom before text = lowerFrom before' text := by
  induction text generalizing before before' with
  | nil => rfl
  | cons character rest ih =>
    have next : casedNext (character :: before) = casedNext (character :: before') := by
      rw [casedNext_cons, casedNext_cons, same]
    rw [lowerFrom, lowerFrom, same, ih next]

/-- The lower case of the second of two texts, in the context of the first, ends that of both. -/
theorem exists_lowerFrom_append (before front text : List Char) :
    ∃ lowered, lowerFrom before (front ++ text) =
      lowered ++ lowerFrom (front.reverse ++ before) text := by
  induction front generalizing before with
  | nil => exact ⟨[], rfl⟩
  | cons character rest ih =>
    obtain ⟨lowered, split⟩ := ih (character :: before)
    rw [List.cons_append, lowerFrom, split, List.reverse_cons, List.append_assoc,
      ← List.append_assoc]
    exact ⟨_, rfl⟩

/-- The lower case of a text has the same length in every context. -/
theorem length_lowerFrom (before before' text : List Char) :
    (lowerFrom before text).length = (lowerFrom before' text).length := by
  induction text generalizing before before' with
  | nil => rfl
  | cons character rest ih =>
    have later := ih (character :: before) (character :: before')
    rw [lowerFrom, lowerFrom, List.length_append, List.length_append, later]
    congr 1
    by_cases sigma : character.toNat = capitalSigma
    · simp only [if_pos sigma]
      split <;> split <;> rfl
    · simp only [if_neg sigma]

/-- Whether a text begins, characters ignorable for case passed over, with a capital sigma that no
cased character follows. -/
def beginsWithFinalSigma (text : List Char) : Bool :=
  match text.dropWhile (covers caseIgnorableRanges) with
  | [] => false
  | character :: rest => character.toNat == capitalSigma && !casedNext rest

/-- A character that is ignorable for case is passed over, and any other one decides. -/
theorem beginsWithFinalSigma_cons (character : Char) (rest : List Char) :
    beginsWithFinalSigma (character :: rest) =
      if covers caseIgnorableRanges character then beginsWithFinalSigma rest
      else character.toNat == capitalSigma && !casedNext rest := by
  by_cases ignorable : covers caseIgnorableRanges character = true
  · rw [beginsWithFinalSigma, List.dropWhile_cons_of_pos ignorable, if_pos ignorable,
      beginsWithFinalSigma]
  · rw [beginsWithFinalSigma, List.dropWhile_cons_of_neg ignorable, if_neg ignorable]

/-- A capital sigma is not ignorable for case. -/
theorem ne_sigma_of_ignorable {character : Char}
    (ignorable : covers caseIgnorableRanges character = true) :
    character.toNat ≠ capitalSigma := by
  intro sigma
  have apart : (caseIgnorableRanges.any fun range =>
      range.1 ≤ capitalSigma && capitalSigma ≤ range.2) = false := by decide +kernel
  rw [covers, sigma, apart] at ignorable
  cases ignorable

/-- The lower case of a text that begins with a capital sigma. -/
theorem lowerFrom_cons_sigma {character : Char} (sigma : character.toNat = capitalSigma)
    (before rest : List Char) :
    lowerFrom before (character :: rest) =
      (if casedNext before && !casedNext rest then Char.ofNat 0x3C2 else Char.ofNat 0x3C3) ::
        lowerFrom (character :: before) rest := by
  rw [lowerFrom, if_pos sigma]
  split <;> rfl

/-- The lower case of a text that begins with any other character. -/
theorem lowerFrom_cons_other {character : Char} (other : character.toNat ≠ capitalSigma)
    (before rest : List Char) :
    lowerFrom before (character :: rest) =
      lowerChar character ++ lowerFrom (character :: before) rest := by
  rw [lowerFrom, if_neg other]

/-- A text has one lower case after a cased character and without one, unless it begins with a
capital sigma that no cased character follows. -/
theorem lowerFrom_eq_iff_of_cased {cased plain : List Char} (isCased : casedNext cased = true)
    (isPlain : casedNext plain = false) (text : List Char) :
    lowerFrom cased text = lowerFrom plain text ↔ beginsWithFinalSigma text = false := by
  induction text generalizing cased plain with
  | nil => exact ⟨fun _ => rfl, fun _ => rfl⟩
  | cons character rest ih =>
    have next (before : List Char) := casedNext_cons character before
    by_cases ignorable : covers caseIgnorableRanges character = true
    · -- The character is passed over and leaves both contexts as they are.
      have other := ne_sigma_of_ignorable ignorable
      simp only [ignorable, if_true] at next
      rw [lowerFrom_cons_other other, lowerFrom_cons_other other, List.append_cancel_left_eq,
        beginsWithFinalSigma_cons, if_pos ignorable]
      exact ih ((next cased).trans isCased) ((next plain).trans isPlain)
    · -- After the character both contexts are alike, so only its own lower case can differ.
      simp only [if_neg ignorable] at next
      have later : lowerFrom (character :: cased) rest = lowerFrom (character :: plain) rest :=
        lowerFrom_congr ((next cased).trans (next plain).symm) rest
      rw [beginsWithFinalSigma_cons, if_neg ignorable]
      by_cases sigma : character.toNat = capitalSigma
      · have forms : Char.ofNat 0x3C2 ≠ Char.ofNat 0x3C3 := by decide
        rw [lowerFrom_cons_sigma sigma, lowerFrom_cons_sigma sigma, isCased, isPlain, later, sigma]
        cases casedNext rest <;> simp [forms]
      · rw [lowerFrom_cons_other sigma, lowerFrom_cons_other sigma, later]
        simp [sigma]

/-- A text has the lower case that it has alone exactly when no cased character stands before it or
it does not begin with a capital sigma that no cased character follows. -/
theorem lowerFrom_eq_lower_iff (before text : List Char) :
    lowerFrom before text = lower text ↔
      ¬ (casedNext before = true ∧ beginsWithFinalSigma text = true) := by
  rw [lower]
  cases cased : casedNext before with
  | false =>
    have alike : casedNext before = casedNext [] := cased
    rw [lowerFrom_congr alike text]
    simp
  | true =>
    rw [lowerFrom_eq_iff_of_cased cased rfl text]
    simp

/-- The lower case of a text after a colon ends the lower case of the whole exactly when what stands
before the colon does not end in a cased character, ignorable ones passed over, or the text does not
begin with a capital sigma that no cased character follows. -/
theorem colon_lower_suffix_iff (front text : List Char) :
    (':' :: lower text) <:+ lower (front ++ ':' :: text) ↔
      ¬ (casedNext front.reverse = true ∧ beginsWithFinalSigma text = true) := by
  have colon : (':' : Char).toNat ≠ capitalSigma := by decide
  have small : lowerChar ':' = [':'] := by decide
  have passed : casedNext (':' :: front.reverse) = casedNext front.reverse := by
    rw [casedNext_cons, if_pos (by decide)]
  obtain ⟨lowered, split⟩ := exists_lowerFrom_append [] front (':' :: text)
  rw [List.append_nil, lowerFrom_cons_other colon, small, List.singleton_append] at split
  rw [← passed, ← lowerFrom_eq_lower_iff, lower, lower, split]
  constructor
  · rintro ⟨other, equal⟩
    have lengths : (':' :: lowerFrom [] text).length =
        (':' :: lowerFrom (':' :: front.reverse) text).length := by
      rw [List.length_cons, List.length_cons, length_lowerFrom]
    obtain ⟨_, same⟩ := List.append_inj' equal lengths
    exact (List.cons.inj same).2.symm
  · intro same
    rw [same]
    exact List.suffix_append _ _

end Modpack.Text
