import Modpack.Text.Ranges

/-!
# Blanks around a text

A blank is a character with the White_Space property. `trim` takes the blanks off both ends and
keeps those between other characters.
-/
namespace Modpack.Text

/-- The characters with the White_Space property. -/
def blankRanges : List (Nat × Nat) :=
  [(0x9, 0xD), (0x20, 0x20), (0x85, 0x85), (0xA0, 0xA0), (0x1680, 0x1680), (0x2000, 0x200A),
    (0x2028, 0x2029), (0x202F, 0x202F), (0x205F, 0x205F), (0x3000, 0x3000)]

/-- Whether a character is a blank. -/
def isBlank (character : Char) : Bool :=
  covers blankRanges character

/-- Drop the blanks in front. -/
def trimStart (text : List Char) : List Char :=
  text.dropWhile isBlank

/-- Drop the blanks at both ends. -/
def trim (text : List Char) : List Char :=
  (trimStart (trimStart text).reverse).reverse

/-- Drop the blanks at both ends of a text. -/
def trimmed (text : String) : String :=
  String.ofList (trim text.toList)

end Modpack.Text
