/-!
# Positions counted in octets

A position in a text is the number of octets before it when the text is encoded in octets, one
to four to a character. A text can be split at a position between two characters and nowhere
else: `splitOctets?_eq_some_iff` says that a split keeps the text and stands at its position, and
that each position between two characters has one.
-/
namespace Modpack.Text

/-- How many octets a text takes. -/
def octets : List Char → Nat
  | [] => 0
  | character :: rest => character.utf8Size + octets rest

/-- The text before a position and the text after it. -/
def splitOctets? : Nat → List Char → Option (List Char × List Char)
  | 0, text => some ([], text)
  | _ + 1, [] => none
  | position + 1, character :: rest =>
    if character.utf8Size ≤ position + 1 then
      (splitOctets? (position + 1 - character.utf8Size) rest).map fun split =>
        (character :: split.1, split.2)
    else none

/-- The text from one position to another. -/
def between? (text : List Char) (start stop : Nat) : Option (List Char) := do
  let (before, _) ← splitOctets? stop text
  let (_, part) ← splitOctets? start before
  some part

/-- The text from a position to its end. -/
def onward? (text : List Char) (start : Nat) : Option (List Char) :=
  (splitOctets? start text).map Prod.snd

/-- The characters of a text, each with the position it starts at. -/
def positioned : Nat → List Char → List (Nat × Char)
  | _, [] => []
  | position, character :: rest =>
    (position, character) :: positioned (position + character.utf8Size) rest

/-- A split keeps the text and stands at its position, and every position between two characters
has a split. -/
theorem splitOctets?_eq_some_iff {position : Nat} {text before after : List Char} :
    splitOctets? position text = some (before, after) ↔
      before ++ after = text ∧ octets before = position := by
  induction text generalizing position before with
  | nil =>
    cases position with
    | zero => cases before <;> simp [splitOctets?, octets, eq_comm]
    | succ position =>
      simp only [splitOctets?, reduceCtorEq, List.append_eq_nil_iff, false_iff, not_and]
      rintro ⟨rfl, -⟩ same
      simp [octets] at same
  | cons character rest ih =>
    have positive := character.utf8Size_pos
    cases position with
    | zero =>
      cases before with
      | nil => simp [splitOctets?, octets, eq_comm]
      | cons first more =>
        have large := first.utf8Size_pos
        simp [splitOctets?, octets]
        omega
    | succ position =>
      cases before with
      | nil => simp [splitOctets?, octets]
      | cons first more =>
        by_cases fits : character.utf8Size ≤ position + 1
        · simp only [splitOctets?, fits, if_true, Option.map_eq_some_iff, Prod.mk.injEq,
            List.cons.injEq, List.cons_append, octets]
          constructor
          · rintro ⟨⟨front, back⟩, found, ⟨rfl, rfl⟩, rfl⟩
            obtain ⟨rfl, count⟩ := ih.1 found
            exact ⟨⟨rfl, rfl⟩, by dsimp only; omega⟩
          · rintro ⟨⟨rfl, same⟩, count⟩
            exact ⟨(more, after), ih.2 ⟨same, by omega⟩, ⟨rfl, rfl⟩, rfl⟩
        · simp only [splitOctets?, fits, if_false, reduceCtorEq, List.cons_append, List.cons.injEq,
            octets, false_iff, not_and]
          rintro ⟨rfl, -⟩
          omega

end Modpack.Text
