import Modpack.Text.PrintTable
import Modpack.Text.Ranges

/-!
# Quoted text

`quoted` sets a text between double quotes. A double quote, a backslash and the common controls
are written with a backslash; a character that does not print on its own is written as its code
point in hexadecimal between braces; all others stand as they are, single quotes too.
-/
namespace Modpack.Text

/-- A character by its code point in hexadecimal. -/
def byCode (character : Char) : List Char :=
  ['\\', 'u', '\x7b'] ++ Nat.toDigits 16 character.toNat ++ ['\x7d']

/-- A character as it stands between quotes. -/
def quotedChar (character : Char) : List Char :=
  if character = '"' ∨ character = '\\' then ['\\', character]
  else if character = '\t' then ['\\', 't']
  else if character = '\n' then ['\\', 'n']
  else if character = '\r' then ['\\', 'r']
  else if character.toNat = 0 then ['\\', '0']
  else if character.toNat < 32 then byCode character
  else if character.toNat < 127 then [character]
  else if covers unprintableRanges character then byCode character
  else [character]

/-- A text between double quotes. -/
def quoted (text : String) : String :=
  String.ofList ('"' :: text.toList.flatMap quotedChar ++ ['"'])

end Modpack.Text
