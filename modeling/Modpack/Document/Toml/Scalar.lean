import Modpack.Document.Json
import Modpack.Number.Decimal

/-!
# Plain values of TOML

Texts, numbers, dates and keys at the front of a text, each returned with what follows it. A
reader gives none where its notation is not met; where one kind of value fails the caller may
try another, since no two kinds share a whole notation.
-/
namespace Modpack.Toml

open Modpack.Json (hex?)

/-- Whether a character is a space or a tab. -/
def isBlank (character : Char) : Bool :=
  character = ' ' || character = '\t'

/-- Drop the spaces and tabs in front. -/
def skip (text : List Char) : List Char :=
  text.dropWhile isBlank

/-- Whether a character may stand in a comment or, quotes and backslashes apart, in a text. -/
def isPlain (character : Char) : Bool :=
  character = '\t' || (32 ≤ character.toNat && character.toNat ≠ 127)

/-! ## Texts -/

/-- The character that a backslash and a mark stand for. -/
def escape? : Char → Option Char
  | 'b' => some '\x08'
  | 't' => some '\t'
  | 'n' => some '\n'
  | 'f' => some '\x0c'
  | 'r' => some '\r'
  | '"' => some '"'
  | '\\' => some '\\'
  | _ => none

/-- The character of a code, which must not be half of a surrogate pair. -/
def scalar? (code : Nat) : Option Char :=
  if h : code.isValidChar then some (Char.ofNatAux code h) else none

/-- The characters of a text between single double quotes, and what follows it. -/
def basic? : List Char → Option (List Char × List Char)
  | [] => none
  | '"' :: rest => some ([], rest)
  | '\\' :: 'u' :: a :: b :: c :: d :: rest => do
    let character ← (hex? [a, b, c, d]).bind scalar?
    let (characters, rest) ← basic? rest
    some (character :: characters, rest)
  | '\\' :: 'U' :: a :: b :: c :: d :: e :: f :: g :: h :: rest => do
    let character ← (hex? [a, b, c, d, e, f, g, h]).bind scalar?
    let (characters, rest) ← basic? rest
    some (character :: characters, rest)
  | '\\' :: mark :: rest => do
    let character ← escape? mark
    let (characters, rest) ← basic? rest
    some (character :: characters, rest)
  | character :: rest =>
    if isPlain character then do
      let (characters, rest) ← basic? rest
      some (character :: characters, rest)
    else none

/-- What a text over several lines is passing over. -/
inductive Passing where
  /-- Nothing: characters count. -/
  | nothing
  /-- Blanks after a backslash, up to the end of the line. -/
  | toLineEnd
  /-- Blanks and line ends after such a line end. -/
  | toText
deriving DecidableEq

/-- The characters of a text between three double quotes, and what follows it. Up to two quotes
may stand right before the closing ones. A backslash at the end of a line takes the line end
and all blanks after it away. -/
def longBasic? : Passing → List Char → Option (List Char × List Char)
  | _, [] => none
  | .toLineEnd, '\n' :: rest => longBasic? .toText rest
  | .toLineEnd, '\r' :: '\n' :: rest => longBasic? .toText rest
  | .toLineEnd, character :: rest =>
    if isBlank character then longBasic? .toLineEnd rest else none
  | .toText, ' ' :: rest => longBasic? .toText rest
  | .toText, '\t' :: rest => longBasic? .toText rest
  | .toText, '\n' :: rest => longBasic? .toText rest
  | .toText, '\r' :: '\n' :: rest => longBasic? .toText rest
  | _, '"' :: '"' :: '"' :: '"' :: '"' :: rest => some (['"', '"'], rest)
  | _, '"' :: '"' :: '"' :: '"' :: rest => some (['"'], rest)
  | _, '"' :: '"' :: '"' :: rest => some ([], rest)
  | _, '\\' :: '\n' :: rest => longBasic? .toText rest
  | _, '\\' :: '\r' :: '\n' :: rest => longBasic? .toText rest
  | _, '\\' :: ' ' :: rest => longBasic? .toLineEnd rest
  | _, '\\' :: '\t' :: rest => longBasic? .toLineEnd rest
  | _, '\\' :: 'u' :: a :: b :: c :: d :: rest => do
    let character ← (hex? [a, b, c, d]).bind scalar?
    let (characters, rest) ← longBasic? .nothing rest
    some (character :: characters, rest)
  | _, '\\' :: 'U' :: a :: b :: c :: d :: e :: f :: g :: h :: rest => do
    let character ← (hex? [a, b, c, d, e, f, g, h]).bind scalar?
    let (characters, rest) ← longBasic? .nothing rest
    some (character :: characters, rest)
  | _, '\\' :: mark :: rest => do
    let character ← escape? mark
    let (characters, rest) ← longBasic? .nothing rest
    some (character :: characters, rest)
  | _, '\n' :: rest => do
    let (characters, rest) ← longBasic? .nothing rest
    some ('\n' :: characters, rest)
  | _, '\r' :: '\n' :: rest => do
    let (characters, rest) ← longBasic? .nothing rest
    some ('\n' :: characters, rest)
  | _, character :: rest =>
    if isPlain character then do
      let (characters, rest) ← longBasic? .nothing rest
      some (character :: characters, rest)
    else none

/-- The characters of a text between single quotes, all taken as they are. -/
def literal? : List Char → Option (List Char × List Char)
  | [] => none
  | '\x27' :: rest => some ([], rest)
  | character :: rest =>
    if isPlain character then do
      let (characters, rest) ← literal? rest
      some (character :: characters, rest)
    else none

/-- The characters of a text between three single quotes, all taken as they are. -/
def longLiteral? : List Char → Option (List Char × List Char)
  | [] => none
  | '\x27' :: '\x27' :: '\x27' :: '\x27' :: '\x27' :: rest => some (['\x27', '\x27'], rest)
  | '\x27' :: '\x27' :: '\x27' :: '\x27' :: rest => some (['\x27'], rest)
  | '\x27' :: '\x27' :: '\x27' :: rest => some ([], rest)
  | '\n' :: rest => do
    let (characters, rest) ← longLiteral? rest
    some ('\n' :: characters, rest)
  | '\r' :: '\n' :: rest => do
    let (characters, rest) ← longLiteral? rest
    some ('\n' :: characters, rest)
  | character :: rest =>
    if isPlain character then do
      let (characters, rest) ← longLiteral? rest
      some (character :: characters, rest)
    else none

/-- Drop one line end in front. -/
def dropLineEnd : List Char → List Char
  | '\n' :: rest => rest
  | '\r' :: '\n' :: rest => rest
  | rest => rest

/-- A text in any of its four notations. A line end right after three opening quotes is not
part of the text. -/
def text? : List Char → Option (String × List Char)
  | '"' :: '"' :: '"' :: rest => (longBasic? .nothing (dropLineEnd rest)).map make
  | '"' :: rest => (basic? rest).map make
  | '\x27' :: '\x27' :: '\x27' :: rest => (longLiteral? (dropLineEnd rest)).map make
  | '\x27' :: rest => (literal? rest).map make
  | _ => none
where
  /-- Characters as a text. -/
  make (found : List Char × List Char) : String × List Char := (String.ofList found.1, found.2)

/-! ## Keys -/

/-- Whether a character may stand in a key without quotes. -/
def isBareKey (character : Char) : Bool :=
  character.isAlphanum || character = '-' || character = '_'

/-- One part of a key. -/
def keyPart? : List Char → Option (String × List Char)
  | '"' :: rest => (basic? rest).map fun (characters, rest) => (String.ofList characters, rest)
  | '\x27' :: rest => (literal? rest).map fun (characters, rest) => (String.ofList characters, rest)
  | text =>
    let bare := text.takeWhile isBareKey
    if bare.isEmpty then none else some (String.ofList bare, text.dropWhile isBareKey)

/-- The most parts a key may have, and how deeply values may be nested, less one. -/
def nestingLimit : Nat := 80

/-- A key: parts joined by points, blanks around each part. The fuel bounds the parts. -/
def key? : Nat → List Char → Option (List String × List Char)
  | 0, _ => none
  | fuel + 1, text => do
    let (part, rest) ← keyPart? (skip text)
    match skip rest with
    | '.' :: rest =>
      let (parts, rest) ← key? fuel rest
      some (part :: parts, rest)
    | rest => some ([part], rest)

/-! ## Numbers -/

/-- Digits after the first: further digits, single underscores allowed between two. -/
def moreDigits (isDigit : Char → Bool) : List Char → List Char × List Char
  | [] => ([], [])
  | '_' :: digit :: rest =>
    if isDigit digit then
      let (digits, rest) := moreDigits isDigit rest
      (digit :: digits, rest)
    else ([], '_' :: digit :: rest)
  | digit :: rest =>
    if isDigit digit then
      let (digits, rest) := moreDigits isDigit rest
      (digit :: digits, rest)
    else ([], digit :: rest)

/-- One or more digits, single underscores allowed between two. -/
def digits? (isDigit : Char → Bool) : List Char → Option (List Char × List Char)
  | [] => none
  | digit :: rest =>
    if isDigit digit then
      let (digits, rest) := moreDigits isDigit rest
      some (digit :: digits, rest)
    else none

/-- Decimal digits that begin with zero only when zero stands alone. -/
def wholeDigits? : List Char → Option (List Char × List Char)
  | '0' :: rest => some (['0'], rest)
  | text => digits? Char.isDigit text

/-- Split off a leading sign; true stands for minus. -/
def splitSign : List Char → Bool × List Char
  | '-' :: rest => (true, rest)
  | '+' :: rest => (false, rest)
  | rest => (false, rest)

/-- A number in the range of whole numbers. -/
def whole? (value : Int) : Option Value :=
  (Whole.within? Whole.minWide Whole.maxWide value).map Value.int

/-- Digits in some base as a number. -/
def valueIn (base : Nat) (digits : List Char) : Nat :=
  digits.foldl (fun value digit => base * value + (Json.hexDigit? digit).getD 0) 0

/-- Whether a character is a hexadecimal digit. -/
def isHex (character : Char) : Bool :=
  (Json.hexDigit? character).isSome

/-- Whether a character is an octal digit. -/
def isOctal (character : Char) : Bool :=
  '0' ≤ character && character ≤ '7'

/-- Whether a character is a binary digit. -/
def isBinary (character : Char) : Bool :=
  character = '0' || character = '1'

/-- A whole number in another base than ten. -/
def based? (base : Nat) (isDigit : Char → Bool) (text : List Char) :
    Option (Value × List Char) := do
  let (digits, rest) ← digits? isDigit text
  let value ← whole? (valueIn base digits)
  some (value, rest)

/-- A whole number. -/
def integer? : List Char → Option (Value × List Char)
  | '0' :: 'x' :: rest => based? 16 isHex rest
  | '0' :: 'o' :: rest => based? 8 isOctal rest
  | '0' :: 'b' :: rest => based? 2 isBinary rest
  | text => do
    let (negative, rest) := splitSign text
    let (digits, rest) ← wholeDigits? rest
    let value : Int := valueIn 10 digits
    let value ← whole? (if negative then -value else value)
    some (value, rest)

/-- An exponent, its mark included. -/
def exponent? : List Char → Option (Int × List Char)
  | mark :: rest =>
    if mark = 'e' ∨ mark = 'E' then do
      let (negative, rest) := splitSign rest
      let (digits, rest) ← digits? Char.isDigit rest
      let value : Int := valueIn 10 digits
      some (if negative then -value else value, rest)
    else none
  | [] => none

/-- A decimal as a value. One too large for a double is refused when it is positive, and the
negative infinity when it is negative. -/
def ofDecimal? (decimal : Decimal.Scientific) : Option Value :=
  let value := decimal.toFloat
  if value.isInf ∧ ¬ decimal.negative then none else some (.float value)

/-- A number with a point or an exponent. -/
def fractional? (text : List Char) : Option (Value × List Char) := do
  let (negative, rest) := splitSign text
  let (whole, rest) ← wholeDigits? rest
  match rest with
  | '.' :: rest =>
    let (fraction, rest) ← digits? Char.isDigit rest
    let (exponent, rest) := (exponent? rest).getD (0, rest)
    let value ← ofDecimal? ⟨negative, valueIn 10 (whole ++ fraction), exponent - fraction.length⟩
    some (value, rest)
  | rest =>
    let (exponent, rest) ← exponent? rest
    let value ← ofDecimal? ⟨negative, valueIn 10 whole, exponent⟩
    some (value, rest)

/-- An infinity or the value that is not a number, by name. -/
def named? (text : List Char) : Option (Value × List Char) :=
  let (negative, rest) := splitSign text
  match rest with
  | 'i' :: 'n' :: 'f' :: rest =>
    some (.float (if negative then -(1.0 / 0.0) else 1.0 / 0.0), rest)
  | 'n' :: 'a' :: 'n' :: rest => some (.float (0.0 / 0.0), rest)
  | _ => none

/-! ## Dates and times -/

/-- Two digits as a number between two bounds. -/
def twoDigits? (low high : Nat) : List Char → Option (Nat × List Char)
  | tens :: ones :: rest => do
    let value := 10 * (← Whole.digit? tens) + (← Whole.digit? ones)
    if low ≤ value ∧ value ≤ high then some (value, rest) else none
  | _ => none

/-- What follows a given character. -/
def afterMark? (mark : Char) : List Char → Option (List Char)
  | character :: rest => if character = mark then some rest else none
  | [] => none

/-- How many days a month has. -/
def daysIn (year month : Nat) : Nat :=
  if month = 2 then
    if year % 4 = 0 ∧ (year % 100 ≠ 0 ∨ year % 400 = 0) then 29 else 28
  else if month = 4 ∨ month = 6 ∨ month = 9 ∨ month = 11 then 30
  else 31

/-- What follows a day of the calendar. -/
def afterDay? (text : List Char) : Option (List Char) := do
  let (century, rest) ← twoDigits? 0 99 text
  let (year, rest) ← twoDigits? 0 99 rest
  let rest ← afterMark? '-' rest
  let (month, rest) ← twoDigits? 1 12 rest
  let rest ← afterMark? '-' rest
  let (_, rest) ← twoDigits? 1 (daysIn (100 * century + year) month) rest
  some rest

/-- What follows a time of day, fractions of a second included. -/
def afterTime? (text : List Char) : Option (List Char) := do
  let (_, rest) ← twoDigits? 0 23 text
  let rest ← afterMark? ':' rest
  let (_, rest) ← twoDigits? 0 59 rest
  let rest ← afterMark? ':' rest
  let (_, rest) ← twoDigits? 0 60 rest
  match rest with
  | '.' :: digit :: more =>
    if digit.isDigit then some (more.dropWhile Char.isDigit) else none
  | rest => some rest

/-- What follows a distance from universal time, if there is one. -/
def afterOffset? : List Char → Option (List Char)
  | 'Z' :: rest => some rest
  | 'z' :: rest => some rest
  | sign :: rest =>
    if sign = '+' ∨ sign = '-' then do
      let (_, rest) ← twoDigits? 0 23 rest
      let rest ← afterMark? ':' rest
      let (_, rest) ← twoDigits? 0 59 rest
      some rest
    else some (sign :: rest)
  | [] => some []

/-- Whether a day may be followed by a time of day after this character. -/
def joinsTime (character : Char) : Bool :=
  character = 'T' || character = 't' || character = ' '

/-- A date with or without a time of day, or a time of day. -/
def moment? (text : List Char) : Option (Value × List Char) :=
  match afterDay? text with
  | some (mark :: rest) =>
    if joinsTime mark then
      match afterTime? rest with
      | some rest => (afterOffset? rest).map (Value.moment, ·)
      | none => some (.moment, mark :: rest)
    else some (.moment, mark :: rest)
  | some [] => some (.moment, [])
  | none => (afterTime? text).map (Value.moment, ·)

/-- A date, a time or a number. -/
def numeric? (text : List Char) : Option (Value × List Char) :=
  moment? text <|> fractional? text <|> named? text <|> integer? text

end Modpack.Toml
