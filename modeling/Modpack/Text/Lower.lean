import Modpack.Text.CaseTable
import Modpack.Text.Ranges

/-!
# Lower case

`lower` maps every character of a text to its lower case. Two characters need more than a table
of single characters: a capital I with a dot becomes two characters, and a capital sigma
becomes the final form exactly where it ends a word, that is, where a cased character comes
before it and none comes after it, characters ignorable for case passed over.
-/
namespace Modpack.Text

/-- Whether the first character that is not ignorable for case is a cased one. -/
def casedNext (text : List Char) : Bool :=
  match text.dropWhile (covers caseIgnorableRanges) with
  | [] => false
  | character :: _ => covers casedRanges character

/-- The run of the table that a code point is a member of. -/
def lowerRun? (code : Nat) : Option (Nat × Nat × Nat × Nat) :=
  lowerRuns.find? fun run =>
    run.1 ≤ code && code ≤ run.2.1 && (code - run.1) % run.2.2.1 == 0

/-- The lower case of one character, apart from the word it stands in. -/
def lowerChar (character : Char) : List Char :=
  if character.toNat < 128 then [character.toLower]
  else if character.toNat = 0x130 then ['i', Char.ofNat 0x307]
  else match lowerRun? character.toNat with
    | some run => [Char.ofNat (run.2.2.2 + (character.toNat - run.1))]
    | none => [character]

/-- The code point of the capital sigma. -/
def capitalSigma : Nat := 0x3A3

/-- The lower case of a text, given the characters before it in reverse. -/
def lowerFrom : List Char → List Char → List Char
  | _, [] => []
  | before, character :: rest =>
    let mapped :=
      if character.toNat = capitalSigma then
        if casedNext before && !casedNext rest then [Char.ofNat 0x3C2] else [Char.ofNat 0x3C3]
      else lowerChar character
    mapped ++ lowerFrom (character :: before) rest

/-- The lower case of a list of characters. -/
def lower (text : List Char) : List Char :=
  lowerFrom [] text

/-- The lower case of a text. -/
def lowered (text : String) : String :=
  String.ofList (lower text.toList)

/-- Equality of two texts up to the case of the first 128 characters. -/
def sameAscii (left right : String) : Bool :=
  left.toList.map Char.toLower == right.toList.map Char.toLower

end Modpack.Text
