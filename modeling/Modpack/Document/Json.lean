import Modpack.Document.Value

/-!
# Reading JSON

`Json.read?` reads one value with blanks around it. A number without point and exponent is a
whole number while it fits 64 bits, `-0` apart, which keeps its sign as a fractional zero. Any
other number is its leading digits, as many as fit a 64-bit word, turned into a double and
scaled by a power of ten, so it is rounded once or twice. A number beyond the doubles, and a
text with half a surrogate pair, are well-formed but unreadable: they are refused only where
their value is asked for.
-/
namespace Modpack.Json

/-- The characters that may stand between the parts of a value. -/
def isBlank (character : Char) : Bool :=
  character = ' ' || character = '\t' || character = '\n' || character = '\r'

/-- Drop the blanks in front. -/
def skip (text : List Char) : List Char :=
  text.dropWhile isBlank

/-! ## Texts -/

/-- The value of a hexadecimal digit. -/
def hexDigit? (character : Char) : Option Nat :=
  if character.isDigit then some (character.toNat - '0'.toNat)
  else if 'a' ≤ character ∧ character ≤ 'f' then some (character.toNat - 'a'.toNat + 10)
  else if 'A' ≤ character ∧ character ≤ 'F' then some (character.toNat - 'A'.toNat + 10)
  else none

/-- The value of a run of hexadecimal digits. -/
def hex? (digits : List Char) : Option Nat :=
  digits.foldlM (fun value digit => (hexDigit? digit).map (16 * value + ·)) 0

/-- The code a backslash and a mark stand for. -/
def escape? : Char → Option Nat
  | '"' => some 0x22
  | '\\' => some 0x5C
  | '/' => some 0x2F
  | 'b' => some 0x08
  | 'f' => some 0x0C
  | 'n' => some 0x0A
  | 'r' => some 0x0D
  | 't' => some 0x09
  | _ => none

/-- The codes of a text up to its closing quote, and what follows the quote. Escaped codes may
be halves of surrogate pairs; controls must be escaped. -/
def codes? : List Char → Option (List Nat × List Char)
  | [] => none
  | '"' :: rest => some ([], rest)
  | '\\' :: 'u' :: first :: second :: third :: fourth :: rest => do
    let code ← hex? [first, second, third, fourth]
    let (codes, rest) ← codes? rest
    some (code :: codes, rest)
  | '\\' :: mark :: rest => do
    let code ← escape? mark
    let (codes, rest) ← codes? rest
    some (code :: codes, rest)
  | character :: rest =>
    if character.toNat < 32 then none
    else do
      let (codes, rest) ← codes? rest
      some (character.toNat :: codes, rest)

/-- Whether a code is the first half of a surrogate pair. -/
def isHighHalf (code : Nat) : Bool :=
  0xD800 ≤ code && code ≤ 0xDBFF

/-- Whether a code is the second half of a surrogate pair. -/
def isLowHalf (code : Nat) : Bool :=
  0xDC00 ≤ code && code ≤ 0xDFFF

/-- The characters of codes, two halves making one character; none if a half stands alone. -/
def characters? : List Nat → Option (List Char)
  | [] => some []
  | [code] => if isHighHalf code || isLowHalf code then none else some [Char.ofNat code]
  | code :: next :: rest =>
    if isHighHalf code && isLowHalf next then
      (characters? rest).map
        (Char.ofNat (0x10000 + (code - 0xD800) * 0x400 + (next - 0xDC00)) :: ·)
    else if isHighHalf code || isLowHalf code then none
    else (characters? (next :: rest)).map (Char.ofNat code :: ·)

/-- A text after its opening quote: nothing on bad notation, no characters when a half of a
surrogate pair stands alone. -/
def text? (text : List Char) : Option (Option String × List Char) :=
  (codes? text).map fun (codes, rest) => ((characters? codes).map String.ofList, rest)

/-! ## Numbers -/

/-- How many values a 64-bit word takes. -/
def wordLimit : Nat := 18446744073709551616

/-- Take in digits while the number fits a word; the digits not taken in are left. -/
def fillWord : Nat → List Char → Nat × List Char
  | word, [] => (word, [])
  | word, digit :: rest =>
    let next := 10 * word + (digit.toNat - '0'.toNat)
    if next < wordLimit then fillWord next rest else (word, digit :: rest)

/-- The double nearest to a power of ten. -/
def powerOfTen (exponent : Nat) : Float :=
  Float.ofScientific 1 false exponent

/-- A word times a power of ten, rounded as a double and again after scaling. Too large a result
is none; one too small is zero. -/
def scaled? (word : Nat) (exponent : Int) : Option Float :=
  let value := Float.ofNat word
  if 0 ≤ exponent then
    if exponent ≤ 308 then
      let product := value * powerOfTen exponent.toNat
      if product.isInf then none else some product
    else if word = 0 then some value
    else none
  else if -308 ≤ exponent then some (value / powerOfTen (-exponent).toNat)
  else
    let small := value / powerOfTen 308
    if -616 ≤ exponent then some (small / powerOfTen (-exponent - 308).toNat)
    else some (small / powerOfTen 308)

/-- A number with a point or an exponent, or too long for a word. -/
def fractional (negative : Bool) (whole fraction : List Char) (exponent : Int) : Value :=
  let (leading, unread) := fillWord 0 whole
  let (word, dropped) := fillWord leading fraction
  let places : Int := (fraction.length - dropped.length : Nat)
  match scaled? word (exponent + unread.length - places) with
  | some value => .float (if negative then -value else value)
  | none => .unreadable

/-- A number without point and exponent. -/
def integral (negative : Bool) (digits : List Char) : Value :=
  let (word, unread) := fillWord 0 digits
  if unread ≠ [] then fractional negative digits [] 0
  else if negative then
    if word = 0 ∨ 9223372036854775808 < word then fractional negative digits [] 0
    else .int (-word)
  else .int word

/-- The exponent of a number, if its mark is there; none on a mark without digits. -/
def exponent? : List Char → Option (Option Int × List Char)
  | [] => some (none, [])
  | mark :: rest =>
    if mark = 'e' ∨ mark = 'E' then
      let (negative, rest) := match rest with
        | '-' :: rest => (true, rest)
        | '+' :: rest => (false, rest)
        | rest => (false, rest)
      let digits := rest.takeWhile Char.isDigit
      if digits.isEmpty then none
      else
        let value := digits.foldl (fun value digit => 10 * value + (digit.toNat - '0'.toNat)) 0
        some (some (if negative then -(value : Int) else value), rest.dropWhile Char.isDigit)
    else some (none, mark :: rest)

/-- The digits before the point: a lone zero, or digits that begin with another. -/
def whole? (text : List Char) : Option (List Char × List Char) :=
  match text with
  | '0' :: rest => some (['0'], rest)
  | _ =>
    let digits := text.takeWhile Char.isDigit
    if digits.isEmpty then none else some (digits, text.dropWhile Char.isDigit)

/-- The digits after the point, if there is one; none on a point without digits. -/
def fraction? : List Char → Option (List Char × List Char)
  | '.' :: rest =>
    let digits := rest.takeWhile Char.isDigit
    if digits.isEmpty then none else some (digits, rest.dropWhile Char.isDigit)
  | rest => some ([], rest)

/-- A number without its sign. -/
def unsigned? (negative : Bool) (text : List Char) : Option (Value × List Char) := do
  let (whole, rest) ← whole? text
  let (fraction, rest) ← fraction? rest
  let (exponent, rest) ← exponent? rest
  match fraction, exponent with
  | [], none => some (integral negative whole, rest)
  | _, _ => some (fractional negative whole fraction (exponent.getD 0), rest)

/-- A number. -/
def number? : List Char → Option (Value × List Char)
  | '-' :: rest => unsigned? true rest
  | rest => unsigned? false rest

/-! ## Values -/

/-- A word such as `true` at the front of a text. -/
def word? (word : String) (value : Value) (text : List Char) : Option (Value × List Char) :=
  if word.toList.isPrefixOf text then some (value, text.drop word.length) else none

/-- A record of fields, unreadable when a name is. -/
def recordOf (fields : List (Option String × Value)) : Value :=
  match fields.mapM fun field => field.1.map fun name => (name, field.2) with
  | some fields => .record fields
  | none => .unreadable

mutual

/-- A value at the front of a text, after blanks. The fuel bounds the steps. -/
def value? : Nat → List Char → Option (Value × List Char)
  | 0, _ => none
  | fuel + 1, text =>
    match skip text with
    | '"' :: rest => (text? rest).map fun (characters, rest) =>
        ((characters.map Value.text).getD .unreadable, rest)
    | '[' :: rest =>
      match skip rest with
      | ']' :: rest => some (.list [], rest)
      | rest => (items? fuel rest).map fun (items, rest) => (.list items, rest)
    | '\x7b' :: rest =>
      match skip rest with
      | '\x7d' :: rest => some (.record [], rest)
      | rest => (fields? fuel rest).map fun (fields, rest) => (recordOf fields, rest)
    | 't' :: rest => word? "true" (.bool true) ('t' :: rest)
    | 'f' :: rest => word? "false" (.bool false) ('f' :: rest)
    | 'n' :: rest => word? "null" .null ('n' :: rest)
    | rest => number? rest

/-- The items of a list up to its closing bracket; at least one. -/
def items? : Nat → List Char → Option (List Value × List Char)
  | 0, _ => none
  | fuel + 1, text => do
    let (item, rest) ← value? fuel text
    match skip rest with
    | ',' :: rest =>
      let (items, rest) ← items? fuel rest
      some (item :: items, rest)
    | ']' :: rest => some ([item], rest)
    | _ => none

/-- The fields of a record up to its closing brace; at least one. -/
def fields? : Nat → List Char → Option (List (Option String × Value) × List Char)
  | 0, _ => none
  | fuel + 1, text => do
    let (name, rest) ← match skip text with
      | '"' :: rest => text? rest
      | _ => none
    let (value, rest) ← match skip rest with
      | ':' :: rest => value? fuel rest
      | _ => none
    match skip rest with
    | ',' :: rest =>
      let (fields, rest) ← fields? fuel rest
      some ((name, value) :: fields, rest)
    | '\x7d' :: rest => some ([(name, value)], rest)
    | _ => none

end

/-- The value a text consists of, blanks apart. Every step but one in two takes a character, so
twice the length of the text is fuel enough. -/
def read? (text : String) : Option Value :=
  match value? (2 * text.length + 2) text.toList with
  | some (value, rest) => if (skip rest).isEmpty then some value else none
  | none => none

end Modpack.Json
