import Mathlib.Data.List.Basic
import Mathlib.Data.List.Induction
import Mathlib.Data.List.TakeWhile
import Modpack.Proofs.LowerCase
import Modpack.Text.Blank

/-!
# Blanks and lower case

A text is made of blanks, a bare text with no blank at either end, and blanks again, and `trim`
gives the bare part. Lower case changes no blank and makes none, and a word ends before a blank as
it ends with the text. So the lower case of a text is the lower case of its bare part between the
same blanks, and it is the same whether a text is trimmed before or after it is put into lower case.
-/
namespace Modpack.Text

/-! ## The bare part of a text -/

/-- A text with no blank at either end. -/
def Bare (text : List Char) : Prop :=
  (∀ first ∈ text.head?, isBlank first = false) ∧ ∀ last ∈ text.getLast?, isBlank last = false

/-- A text of blanks. -/
def AllBlank (text : List Char) : Prop :=
  ∀ character ∈ text, isBlank character = true

/-- There is nothing but blanks in the text without characters. -/
theorem allBlank_nil : AllBlank [] :=
  fun _ member => nomatch member

/-- A text read backwards is bare if the text is. -/
theorem Bare.reverse {text : List Char} (bare : Bare text) : Bare text.reverse := by
  rw [Bare, List.head?_reverse, List.getLast?_reverse]
  exact ⟨bare.2, bare.1⟩

/-- Blanks read backwards are blanks. -/
theorem AllBlank.reverse {text : List Char} (blank : AllBlank text) : AllBlank text.reverse :=
  fun character member => blank character (List.mem_reverse.1 member)

/-- The blanks in front of a text that does not begin with one are dropped. -/
theorem trimStart_append {front text : List Char} (blank : AllBlank front)
    (begins : ∀ first ∈ text.head?, isBlank first = false) : trimStart (front ++ text) = text := by
  rw [trimStart, List.dropWhile_append_of_pos blank]
  cases text with
  | nil => rfl
  | cons first rest => rw [List.dropWhile_cons_of_neg (by simp [begins first rfl])]

/-- Trimming gives the bare text that stands between blanks. -/
theorem trim_between {front text back : List Char} (blankFront : AllBlank front) (bare : Bare text)
    (blankBack : AllBlank back) : trim (front ++ text ++ back) = text := by
  cases text with
  | nil =>
    have all : AllBlank (front ++ back) := by
      intro character member
      exact (List.mem_append.1 member).elim (blankFront character) (blankBack character)
    have nothing : trimStart (front ++ back ++ []) = [] :=
      trimStart_append all fun first found => nomatch found
    rw [List.append_nil] at nothing
    rw [trim, List.append_nil, nothing]
    rfl
  | cons first rest =>
    have start : trimStart (front ++ first :: rest ++ back) = first :: rest ++ back := by
      rw [List.append_assoc]
      exact trimStart_append blankFront fun other found => bare.1 other found
    rw [trim, start, List.reverse_append, trimStart_append blankBack.reverse bare.reverse.1,
      List.reverse_reverse]

/-- A text begins with blanks, and what is left of it does not. -/
theorem exists_trimStart (text : List Char) :
    ∃ front, AllBlank front ∧ text = front ++ trimStart text ∧
      ∀ first ∈ (trimStart text).head?, isBlank first = false := by
  refine ⟨text.takeWhile isBlank, fun _ => List.mem_takeWhile_imp,
    List.takeWhile_append_dropWhile.symm, fun first found => ?_⟩
  have kept := List.head?_dropWhile_not isBlank text
  rw [← trimStart, found] at kept
  exact kept

/-- A text ends with blanks, and what is left of it does not. -/
theorem exists_trimEnd (text : List Char) :
    ∃ kept back, AllBlank back ∧ text = kept ++ back ∧
      ∀ last ∈ kept.getLast?, isBlank last = false := by
  obtain ⟨back, blank, split, ends⟩ := exists_trimStart text.reverse
  refine ⟨(trimStart text.reverse).reverse, back.reverse, blank.reverse, ?_, ?_⟩
  · rw [← List.reverse_append, ← split, List.reverse_reverse]
  · rw [List.getLast?_reverse]
    exact ends

/-- A text behind a mark keeps the blanks in front of it when it is trimmed with the mark. -/
theorem trim_mark {mark kept back : List Char} (bare : Bare mark) (marked : mark ≠ [])
    (ends : ∀ last ∈ kept.getLast?, isBlank last = false) (blank : AllBlank back) :
    trim (mark ++ (kept ++ back)) = mark ++ kept := by
  have whole : Bare (mark ++ kept) := by
    constructor
    · rw [List.head?_append_of_ne_nil mark marked]
      exact bare.1
    · rw [List.getLast?_append]
      intro last found
      rcases Option.or_eq_some_iff.1 (Option.mem_def.1 found) with own | ⟨_, other⟩
      · exact ends last own
      · exact bare.2 last other
  rw [← List.append_assoc]
  exact trim_between allBlank_nil whole blank

/-- A text is its trimmed text between blanks, and the trimmed text is bare. -/
theorem exists_trim (text : List Char) :
    ∃ front back, AllBlank front ∧ AllBlank back ∧ text = front ++ trim text ++ back ∧
      Bare (trim text) := by
  obtain ⟨front, blankFront, split, begins⟩ := exists_trimStart text
  obtain ⟨back, blankBack, split', ends⟩ := exists_trimStart (trimStart text).reverse
  have trimmed : trimStart text = trim text ++ back.reverse := by
    rw [trim, ← List.reverse_append, ← split', List.reverse_reverse]
  refine ⟨front, back.reverse, blankFront, blankBack.reverse, ?_, fun first found => ?_, ?_⟩
  · rw [List.append_assoc, ← trimmed]
    exact split
  · refine begins first ?_
    rw [trimmed, List.head?_append, Option.mem_def.1 found]
    rfl
  · rw [trim, List.getLast?_reverse]
    exact ends

/-- A text is bare exactly when trimming leaves it. -/
theorem bare_iff_trim {text : List Char} : Bare text ↔ trim text = text := by
  constructor
  · intro bare
    simpa using trim_between allBlank_nil bare allBlank_nil
  · intro same
    obtain ⟨_, _, _, _, _, bare⟩ := exists_trim text
    rw [← same]
    exact bare

/-- A trimmed text stays as it is when it is trimmed again. -/
theorem trim_trim (text : List Char) : trim (trim text) = trim text := by
  obtain ⟨_, _, _, _, _, bare⟩ := exists_trim text
  exact bare_iff_trim.1 bare

/-! ## Characters that lower case spares -/

/-- The code points with a rule of their own, and those their rules lead to. -/
def ownRules : List Nat :=
  [0, 'i'.toNat, 0x130, 0x307, capitalSigma, 0x3C2, 0x3C3]

/-- Whether lower case spares some characters: it leaves each of them and leads to none of them from
another one. Asked of the first characters one by one, of those with a rule of their own, and of the
runs of the table. -/
def spares (ranges : List (Nat × Nat)) : Bool :=
  ((List.range 128).all fun code =>
    (Char.ofNat code).toLower = Char.ofNat code
      || !covers ranges (Char.ofNat code) && !covers ranges (Char.ofNat code).toLower)
  && (ownRules.all fun code => !covers ranges (Char.ofNat code))
  && lowerRuns.all fun run => ranges.all fun range =>
    (run.2.1 < range.1 || range.2 < run.1)
      && (run.2.2.2 + (run.2.1 - run.1) < range.1 || range.2 < run.2.2.2)

section Spared

variable {ranges : List (Nat × Nat)} {character : Char}

/-- One of the first characters that is spared is left, and is the lower case of no other one. -/
theorem toLower_of_spares (spared : spares ranges = true) (plain : character.toNat < 128) :
    character.toLower = character ∨
      covers ranges character = false ∧ covers ranges character.toLower = false := by
  simp only [spares, Bool.and_eq_true, List.all_eq_true] at spared
  have asked := spared.1.1 character.toNat (List.mem_range.2 plain)
  rw [Char.ofNat_toNat] at asked
  simpa using asked

/-- Characters with a rule of their own are not among those that are spared. -/
theorem covers_of_own_rule (spared : spares ranges = true) (code : Nat) (own : code ∈ ownRules) :
    covers ranges (Char.ofNat code) = false := by
  simp only [spares, Bool.and_eq_true, List.all_eq_true] at spared
  simpa using spared.1.2 code own

/-- A run of the table neither meets the characters that are spared nor leads to one of them. -/
theorem apart_of_spares (spared : spares ranges = true) {run : Nat × Nat × Nat × Nat}
    (listed : run ∈ lowerRuns) {range : Nat × Nat} (member : range ∈ ranges) :
    (run.2.1 < range.1 ∨ range.2 < run.1) ∧
      (run.2.2.2 + (run.2.1 - run.1) < range.1 ∨ range.2 < run.2.2.2) := by
  simp only [spares, Bool.and_eq_true, List.all_eq_true] at spared
  simpa using spared.2 run listed range member

/-- A character with a run of the table is a member of it. -/
theorem mem_of_lowerRun? {code : Nat} {run : Nat × Nat × Nat × Nat}
    (found : lowerRun? code = some run) : run ∈ lowerRuns ∧ run.1 ≤ code ∧ code ≤ run.2.1 := by
  have fits := List.find?_some found
  simp only [Bool.and_eq_true, decide_eq_true_eq] at fits
  exact ⟨List.mem_of_find?_eq_some found, fits.1.1, fits.1.2⟩

/-- A character that is spared is its own lower case. -/
theorem lowerChar_of_covers (spared : spares ranges = true)
    (covered : covers ranges character = true) : lowerChar character = [character] := by
  rw [lowerChar]
  by_cases plain : character.toNat < 128
  · rw [if_pos plain]
    rcases toLower_of_spares spared plain with same | ⟨uncovered, _⟩
    · rw [same]
    · rw [covered] at uncovered
      cases uncovered
  · have notDotted : character.toNat ≠ 0x130 := by
      intro dotted
      have uncovered := covers_of_own_rule spared character.toNat (by simp [ownRules, dotted])
      rw [Char.ofNat_toNat, covered] at uncovered
      cases uncovered
    rw [if_neg plain, if_neg notDotted]
    cases found : lowerRun? character.toNat with
    | none => rfl
    | some run =>
      obtain ⟨listed, low, high⟩ := mem_of_lowerRun? found
      obtain ⟨range, member, low', high'⟩ := covers_iff.1 covered
      have apart := (apart_of_spares spared listed member).1
      omega

/-- The code point of the character with a code is that code, unless it is the first character. -/
theorem toNat_ofNat_cases (code : Nat) :
    (Char.ofNat code).toNat = code ∨ Char.ofNat code = Char.ofNat 0 := by
  by_cases valid : code.isValidChar
  · left
    rw [Char.ofNat, dif_pos valid]
    rfl
  · right
    rw [Char.ofNat, dif_neg valid]
    rfl

/-- A character that is spared is the lower case of itself alone. -/
theorem eq_of_mem_lowerChar (spared : spares ranges = true) {lowered : Char}
    (member : lowered ∈ lowerChar character) (covered : covers ranges lowered = true) :
    lowered = character := by
  have own (code : Nat) (listed : code ∈ ownRules) (same : lowered = Char.ofNat code) :
      lowered = character := by
    rw [same, covers_of_own_rule spared code listed] at covered
    cases covered
  rw [lowerChar] at member
  by_cases plain : character.toNat < 128
  · rw [if_pos plain, List.mem_singleton] at member
    rcases toLower_of_spares spared plain with same | ⟨_, uncovered⟩
    · rw [member, same]
    · rw [member, uncovered] at covered
      cases covered
  · rw [if_neg plain] at member
    by_cases dotted : character.toNat = 0x130
    · rw [if_pos dotted] at member
      rcases List.mem_cons.1 member with same | later
      · exact own 'i'.toNat (by decide) (same.trans (Char.ofNat_toNat 'i').symm)
      · exact own 0x307 (by decide) (List.mem_singleton.1 later)
    · rw [if_neg dotted] at member
      cases found : lowerRun? character.toNat with
      | none =>
        rw [found] at member
        exact List.mem_singleton.1 member
      | some run =>
        rw [found] at member
        have same := List.mem_singleton.1 member
        obtain ⟨listed, low, high⟩ := mem_of_lowerRun? found
        rcases toNat_ofNat_cases (run.2.2.2 + (character.toNat - run.1)) with code | first
        · obtain ⟨range, inRanges, low', high'⟩ := covers_iff.1 covered
          have apart := (apart_of_spares spared listed inRanges).2
          rw [same, code] at low' high'
          omega
        · exact own 0 (by decide) (same.trans first)

/-- A character that is spared is no capital sigma. -/
theorem ne_sigma_of_covers (spared : spares ranges = true)
    (covered : covers ranges character = true) : character.toNat ≠ capitalSigma := by
  intro sigma
  have uncovered := covers_of_own_rule spared character.toNat (by simp [ownRules, sigma])
  rw [Char.ofNat_toNat, covered] at uncovered
  cases uncovered

end Spared

/-! ## Lower case between blanks -/

/-- Lower case spares the blanks. -/
theorem spares_blanks : spares blankRanges = true := by decide

/-- A blank is neither ignorable for case nor cased. -/
theorem casedNext_blank {blank : Char} (isBlank : isBlank blank = true) (rest : List Char) :
    casedNext (blank :: rest) = false := by
  have apart : (blankRanges.all fun range => (caseIgnorableRanges ++ casedRanges).all fun other =>
      range.2 < other.1 || other.2 < range.1) = true := by decide +kernel
  obtain ⟨range, member, low, high⟩ := covers_iff.1 isBlank
  have free {ranges : List (Nat × Nat)} (among : ∀ other ∈ ranges,
      other ∈ caseIgnorableRanges ++ casedRanges) : covers ranges blank = false := by
    rw [Bool.eq_false_iff]
    intro covered
    obtain ⟨other, listed, low', high'⟩ := covers_iff.1 covered
    simp only [List.all_eq_true, Bool.or_eq_true, decide_eq_true_eq] at apart
    have := apart range member other (among other listed)
    omega
  rw [casedNext_cons, free fun _ => List.mem_append_left _, if_neg Bool.false_ne_true,
    free fun _ => List.mem_append_right _]

/-- A word ends before a blank as it ends with the text. -/
theorem casedNext_append_blank {blank : Char} (isBlank : isBlank blank = true) (text : List Char) :
    casedNext (text ++ [blank]) = casedNext text := by
  induction text with
  | nil => exact casedNext_blank isBlank []
  | cons character rest ih => rw [List.cons_append, casedNext_cons, casedNext_cons, ih]

/-- The lower case of a text that begins with a blank is the blank and the lower case of the
rest. -/
theorem lowerFrom_cons_blank {blank : Char} (isBlank : isBlank blank = true)
    (before rest : List Char) : lowerFrom before (blank :: rest) = blank :: lower rest := by
  have nothingBefore : casedNext (blank :: before) = casedNext [] := casedNext_blank isBlank before
  rw [lowerFrom_cons_other (ne_sigma_of_covers spares_blanks isBlank),
    lowerChar_of_covers spares_blanks isBlank, List.singleton_append,
    lowerFrom_congr nothingBefore, lower]

/-- The lower case of a text that ends with a blank is the lower case before it and the blank. -/
theorem lowerFrom_append_blank {blank : Char} (isBlank : isBlank blank = true)
    (before text : List Char) :
    lowerFrom before (text ++ [blank]) = lowerFrom before text ++ [blank] := by
  induction text generalizing before with
  | nil => exact lowerFrom_cons_blank isBlank before []
  | cons character rest ih =>
    rw [List.cons_append, lowerFrom, lowerFrom, casedNext_append_blank isBlank, ih,
      List.append_assoc]

/-- The lower case of a text between blanks stands between the same blanks. -/
theorem lower_between {front back : List Char} (blankFront : AllBlank front)
    (blankBack : AllBlank back) (text : List Char) :
    lower (front ++ text ++ back) = front ++ lower text ++ back := by
  induction front with
  | nil =>
    rw [List.nil_append, List.nil_append]
    induction back using List.reverseRecOn with
    | nil => rw [List.append_nil, List.append_nil]
    | append_singleton back blank ih =>
      have isBlank := blankBack blank (List.mem_append_right back List.mem_cons_self)
      rw [← List.append_assoc, lower, lowerFrom_append_blank isBlank, ← lower,
        ih fun other member => blankBack other (List.mem_append_left _ member), List.append_assoc]
  | cons blank front ih =>
    have isBlank := blankFront blank List.mem_cons_self
    rw [List.cons_append, List.cons_append, lower, lowerFrom_cons_blank isBlank,
      ih fun other member => blankFront other (List.mem_cons_of_mem _ member)]
    rfl

/-- The lower case of a character is not empty. -/
theorem lowerChar_ne_nil (character : Char) : lowerChar character ≠ [] := by
  rw [lowerChar]
  split
  · exact List.cons_ne_nil _ _
  · split
    · exact List.cons_ne_nil _ _
    · split <;> exact List.cons_ne_nil _ _

/-- A text that begins with a character begins in lower case with the lower case of it, and if lower
case spares some characters, it begins with one of these only if the text does. -/
theorem exists_lowerFrom_cons (before : List Char) (character : Char) (rest : List Char) :
    ∃ first others,
      lowerFrom before (character :: rest) =
        first :: others ++ lowerFrom (character :: before) rest ∧
      ∀ ranges, spares ranges = true → ∀ lowered ∈ first :: others, covers ranges lowered = true →
        lowered = character := by
  by_cases sigma : character.toNat = capitalSigma
  · rw [lowerFrom_cons_sigma sigma]
    refine ⟨_, [], rfl, fun ranges spared lowered member covered => ?_⟩
    have forms : covers ranges (Char.ofNat 0x3C2) = false ∧
        covers ranges (Char.ofNat 0x3C3) = false :=
      ⟨covers_of_own_rule spared 0x3C2 (by decide), covers_of_own_rule spared 0x3C3 (by decide)⟩
    rw [List.mem_singleton.1 member] at covered
    split at covered
    · rw [forms.1] at covered
      cases covered
    · rw [forms.2] at covered
      cases covered
  · rw [lowerFrom_cons_other sigma]
    cases mapped : lowerChar character with
    | nil => exact absurd mapped (lowerChar_ne_nil character)
    | cons first others =>
      refine ⟨first, others, rfl, fun ranges spared lowered member covered => ?_⟩
      exact eq_of_mem_lowerChar spared (mapped ▸ member) covered

/-- The lower case of a text begins with a character that lower case spares only if the text
does. -/
theorem head?_of_lower {ranges : List (Nat × Nat)} (spared : spares ranges = true)
    {text : List Char} {first : Char} (found : (lower text).head? = some first)
    (covered : covers ranges first = true) : text.head? = some first := by
  cases text with
  | nil => cases found
  | cons character rest =>
    obtain ⟨lowered, others, split, only⟩ := exists_lowerFrom_cons [] character rest
    rw [lower, split] at found
    obtain rfl := Option.some.inj found
    rw [only ranges spared lowered List.mem_cons_self covered]
    rfl

/-- The lower case of a text ends with a character that lower case spares only if the text does. -/
theorem getLast?_of_lower {ranges : List (Nat × Nat)} (spared : spares ranges = true)
    {text : List Char} {last : Char} (found : (lower text).getLast? = some last)
    (covered : covers ranges last = true) : text.getLast? = some last := by
  induction text using List.reverseRecOn with
  | nil => cases found
  | append_singleton text character _ =>
    obtain ⟨lowered, split⟩ := exists_lowerFrom_append [] text [character]
    obtain ⟨first, others, alone, only⟩ :=
      exists_lowerFrom_cons (text.reverse ++ []) character []
    rw [lower, split, alone, lowerFrom, List.append_nil,
      List.getLast?_append_of_ne_nil _ (List.cons_ne_nil _ _)] at found
    rw [only ranges spared last (List.mem_of_getLast? found) covered, List.getLast?_concat]

/-- The lower case of a text begins with a blank only if the text does. -/
theorem begins_lower {text : List Char} (begins : ∀ first ∈ text.head?, isBlank first = false) :
    ∀ first ∈ (lower text).head?, isBlank first = false := by
  intro first found
  rw [Bool.eq_false_iff]
  intro blank
  have same := head?_of_lower spares_blanks found blank
  rw [begins first same] at blank
  cases blank

/-- The lower case of a text ends with a blank only if the text does. -/
theorem ends_lower {text : List Char} (ends : ∀ last ∈ text.getLast?, isBlank last = false) :
    ∀ last ∈ (lower text).getLast?, isBlank last = false := by
  intro last found
  rw [Bool.eq_false_iff]
  intro blank
  have same := getLast?_of_lower spares_blanks found blank
  rw [ends last same] at blank
  cases blank

/-- The lower case of a bare text is bare. -/
theorem Bare.lower {text : List Char} (bare : Bare text) : Bare (lower text) :=
  ⟨begins_lower bare.1, ends_lower bare.2⟩

/-- Trimming and lower case may change places. -/
theorem trim_lower (text : List Char) : trim (lower text) = lower (trim text) := by
  obtain ⟨front, back, blankFront, blankBack, split, bare⟩ := exists_trim text
  calc trim (lower text)
      = trim (front ++ lower (trim text) ++ back) := by
        rw [← lower_between blankFront blankBack, ← split]
    _ = lower (trim text) := trim_between blankFront bare.lower blankBack

/-- A text has the lower case of its trimmed text only if there is nothing to trim. -/
theorem trim_eq_self_of_lower {text : List Char} (same : lower (trim text) = lower text) :
    trim text = text := by
  obtain ⟨front, back, blankFront, blankBack, split, _⟩ := exists_trim text
  have between : front ++ lower (trim text) ++ back = lower (trim text) := by
    rw [← lower_between blankFront blankBack, ← split, same]
  have lengths := congrArg List.length between
  simp only [List.length_append] at lengths
  have noFront : front = [] := List.length_eq_zero_iff.1 (by omega)
  have noBack : back = [] := List.length_eq_zero_iff.1 (by omega)
  rw [noFront, noBack, List.nil_append, List.append_nil] at split
  exact split.symm

end Modpack.Text
