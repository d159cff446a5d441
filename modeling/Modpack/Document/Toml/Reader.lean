import Modpack.Document.Toml.Scalar
import Modpack.Document.Toml.Table

/-!
# Reading TOML

`Toml.read?` reads a document: values under keys, then headers with the values under each. Lists
may spread over lines and hold comments; records in braces stay on one line. Values nest less
than eighty levels deep and a key has less than eighty parts.
-/
namespace Modpack.Toml

/-- What follows the rest of a line in which only a comment may stand. -/
def afterLine? (text : List Char) : Option (List Char) :=
  let rest := match skip text with
    | '#' :: rest => rest.dropWhile isPlain
    | rest => rest
  match rest with
  | [] => some []
  | '\n' :: rest => some rest
  | '\r' :: '\n' :: rest => some rest
  | _ => none

/-- Drop blanks, line ends and comments in front. The fuel bounds the lines. -/
def skipLines? : Nat → List Char → Option (List Char)
  | 0, _ => none
  | fuel + 1, text =>
    match skip text with
    | '\n' :: rest => skipLines? fuel rest
    | '\r' :: '\n' :: rest => skipLines? fuel rest
    | '#' :: rest =>
      match rest.dropWhile isPlain with
      | '\n' :: rest => skipLines? fuel rest
      | '\r' :: '\n' :: rest => skipLines? fuel rest
      | _ => none
    | rest => some rest

/-- Drop blanks, line ends and comments in front; each line takes a character. -/
def skipAll? (text : List Char) : Option (List Char) :=
  skipLines? (text.length + 1) text

mutual

/-- A value at the front of a text. The first number bounds the steps, the second the levels
that values may still nest. -/
def value? : Nat → Nat → List Char → Option (Value × List Char)
  | 0, _, _ => none
  | fuel + 1, levels, text =>
    match text with
    | '"' :: _ => (text? text).map fun (content, rest) => (.text content, rest)
    | '\x27' :: _ => (text? text).map fun (content, rest) => (.text content, rest)
    | '[' :: rest =>
      match levels with
      | 0 => none
      | levels + 1 => (items? fuel levels rest).map fun (items, rest) => (.list items, rest)
    | '\x7b' :: rest =>
      match levels with
      | 0 => none
      | levels + 1 =>
        match skip rest with
        | '\x7d' :: rest => some (.record [], rest)
        | rest => do
          let (values, rest) ← pairs? fuel levels rest
          let parts ← addValues? values []
          some (.record (fieldsOf parts), rest)
    | 't' :: _ => Json.word? "true" (.bool true) text
    | 'f' :: _ => Json.word? "false" (.bool false) text
    | 'i' :: _ => named? text
    | 'n' :: _ => named? text
    | _ => numeric? text

/-- The items of a list up to its closing bracket; a comma may follow the last. -/
def items? : Nat → Nat → List Char → Option (List Value × List Char)
  | 0, _, _ => none
  | fuel + 1, levels, text => do
    match ← skipAll? text with
    | ']' :: rest => some ([], rest)
    | start =>
      let (item, rest) ← value? fuel levels start
      match ← skipAll? rest with
      | ',' :: rest =>
        let (items, rest) ← items? fuel levels rest
        some (item :: items, rest)
      | ']' :: rest => some ([item], rest)
      | _ => none

/-- The keys and values of a record up to its closing brace; at least one. -/
def pairs? : Nat → Nat → List Char → Option (List (List String × Value) × List Char)
  | 0, _, _ => none
  | fuel + 1, levels, text => do
    let (key, rest) ← key? (nestingLimit - 1) text
    let rest ← afterMark? '=' rest
    let (value, rest) ← value? fuel levels (skip rest)
    match skip rest with
    | ',' :: rest =>
      let (pairs, rest) ← pairs? fuel levels rest
      some ((key, value) :: pairs, rest)
    | '\x7d' :: rest => some ([(key, value)], rest)
    | _ => none

end

/-- A line of a document. -/
inductive Line where
  /-- A key with its value. -/
  | pair (key : List String) (value : Value)
  /-- A header, and whether it may stand several times. -/
  | header (key : List String) (isShared : Bool)

/-- A header after its first bracket, up to the end of its line. -/
def header? (text : List Char) : Option (Line × List Char) :=
  match text with
  | '[' :: rest => do
    let (key, rest) ← key? (nestingLimit - 1) rest
    let rest ← (afterMark? ']' rest).bind (afterMark? ']')
    let rest ← afterLine? rest
    some (.header key true, rest)
  | _ => do
    let (key, rest) ← key? (nestingLimit - 1) text
    let rest ← afterMark? ']' rest
    let rest ← afterLine? rest
    some (.header key false, rest)

/-- A key with its value, up to the end of its line. -/
def pair? (fuel : Nat) (text : List Char) : Option (Line × List Char) := do
  let (key, rest) ← key? (nestingLimit - 1) text
  let rest ← afterMark? '=' rest
  let (value, rest) ← value? fuel (nestingLimit - 1) (skip rest)
  let rest ← afterLine? rest
  some (.pair key value, rest)

/-- The lines of a document, empty ones and comments left out. The fuel bounds the lines. -/
def lines? (stepFuel : Nat) : Nat → List Char → Option (List Line)
  | 0, _ => none
  | fuel + 1, text =>
    match skip text with
    | [] => some []
    | '#' :: rest => (afterLine? ('#' :: rest)).bind (lines? stepFuel fuel)
    | '\n' :: rest => lines? stepFuel fuel rest
    | '\r' :: '\n' :: rest => lines? stepFuel fuel rest
    | '[' :: rest => do
      let (line, rest) ← header? rest
      let lines ← lines? stepFuel fuel rest
      some (line :: lines)
    | rest => do
      let (line, rest) ← pair? stepFuel rest
      let lines ← lines? stepFuel fuel rest
      some (line :: lines)

/-- Lines grouped under their headers: the values before the first header, and the sections. -/
def grouped : List Line → List (List String × Value) × List Section
  | [] => ([], [])
  | .pair key value :: rest =>
    let (values, sections) := grouped rest
    ((key, value) :: values, sections)
  | .header key isShared :: rest =>
    let (values, sections) := grouped rest
    ([], ⟨key, isShared, values⟩ :: sections)

/-- The record that lines build. -/
def build? (lines : List Line) : Option Value := do
  let (values, sections) := grouped lines
  let parts ← addValues? values []
  let parts ← sections.foldlM (fun parts part => part.addTo? parts) parts
  some (.record (fieldsOf parts))

/-- Drop the mark that may stand at the start of a text file. -/
def dropMark : List Char → List Char
  | character :: rest => if character.toNat = 0xFEFF then rest else character :: rest
  | [] => []

/-- The record a document consists of. Every step but one in two takes a character, so twice the
length of the text is fuel enough. -/
def read? (text : String) : Option Value :=
  (lines? (2 * text.length + 2) (text.length + 1) (dropMark text.toList)).bind build?

end Modpack.Toml
