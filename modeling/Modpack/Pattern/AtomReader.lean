import Modpack.Pattern.Syntax
import Modpack.Text.Alphanumeric
import Modpack.Text.Blank

/-!
# Reading atoms

The least parts of a pattern, read from the front of a text. In the filters that patterns stand in,
no closing brace comes behind an opening one; so nothing that needs braces can be written, and an
opening brace is refused wherever it would begin a code. The properties of characters are refused,
too: no table of them is at hand.

Where the setting `x` is on, blanks between the parts of a pattern and comments, which go from a
number sign to the end of the line, are passed over. The functions below are told by `spaced`
whether it is on.
-/
namespace Modpack.Pattern

open Modpack.Text

/-! ## Blanks and comments -/

/-- The text after blanks and comments, which may begin inside a comment. -/
def afterBlanks : Bool → List Char → List Char
  | _, [] => []
  | true, character :: rest => afterBlanks (character ≠ '\n') rest
  | false, character :: rest =>
    if isBlank character then afterBlanks false rest
    else if character = '#' then afterBlanks true rest
    else character :: rest

/-- The text after what is passed over. -/
def skip (spaced : Bool) (text : List Char) : List Char :=
  if spaced then afterBlanks false text else text

/-- The next character that is no blank; the first number sign is passed over, too, but not the
comment behind it. -/
def peekBlank : Bool → List Char → Option Char
  | _, [] => none
  | signSeen, character :: rest =>
    if isBlank character then peekBlank signSeen rest
    else if character = '#' ∧ !signSeen then peekBlank true rest
    else some character

/-- The next character, as seen before deciding on a range. -/
def peek? (spaced : Bool) (text : List Char) : Option Char :=
  if spaced then peekBlank false text else text.head?

/-! ## Atoms -/

/-- The value of a hexadecimal digit. -/
def hexDigit? (character : Char) : Option Nat :=
  if character.isDigit then some (character.toNat - '0'.toNat)
  else if 'a' ≤ character ∧ character ≤ 'f' then some (character.toNat - 'a'.toNat + 10)
  else if 'A' ≤ character ∧ character ≤ 'F' then some (character.toNat - 'A'.toNat + 10)
  else none

/-- A number of hexadecimal digits, read as the continuation of a value. -/
def hexDigits? (spaced : Bool) : Nat → Nat → List Char → Option (Nat × List Char)
  | 0, value, text => some (value, text)
  | _ + 1, _, [] => none
  | count + 1, value, character :: rest => do
    let digit ← hexDigit? character
    hexDigits? spaced count (16 * value + digit) (skip spaced rest)

/-- The character of a code point written with a number of hexadecimal digits. -/
def code? (spaced : Bool) (count : Nat) (text : List Char) : Option (Char × List Char) := do
  let (value, rest) ← hexDigits? spaced count 0 (skip spaced text)
  if value.isValidChar then some (Char.ofNat value, rest) else none

/-- Whether a backslash before a character does no more than take its meaning away. -/
def isEscapable (character : Char) : Bool :=
  character.toNat < 128 && !character.isAlphanum && character ≠ '<' && character ≠ '>'

/-- The characters that have letters of their own. -/
def controls : List (Char × Char) :=
  [('a', '\x07'), ('f', '\x0c'), ('t', '\t'), ('n', '\n'), ('r', '\r'), ('v', '\x0b')]

/-- What follows a backslash. -/
def escape? (spaced : Bool) : List Char → Option (Atom × List Char)
  | [] => none
  | mark :: rest =>
    if mark = 'x' then
      (code? spaced 2 rest).map fun found => (.literal ⟨found.1, true⟩, found.2)
    else if mark = 'u' then
      (code? spaced 4 rest).map fun found => (.literal ⟨found.1, false⟩, found.2)
    else if mark = 'U' then
      (code? spaced 8 rest).map fun found => (.literal ⟨found.1, false⟩, found.2)
    else if ['d', 's', 'w'].contains mark then some (.shorthand false, rest)
    else if ['D', 'S', 'W'].contains mark then some (.shorthand true, rest)
    else if isEscapable mark then some (.literal ⟨mark, false⟩, rest)
    else match controls.lookup mark with
      | some character => some (.literal ⟨character, false⟩, rest)
      | none =>
        if mark = 'A' ∨ mark = 'z' then some (.place false, rest)
        else if mark = 'b' ∧ rest.head? = some '\x7b' then none
        else if ['b', 'B', '<', '>'].contains mark then some (.place true, rest)
        else none

end Modpack.Pattern
