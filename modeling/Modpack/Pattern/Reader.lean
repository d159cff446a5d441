import Modpack.Pattern.SetReader

/-!
# Reading patterns

`read?` reads a pattern from a text, or refuses it. A repetition needs something to repeat; a
group must be closed, and its name, if it has one, must be new; a setting is switched at most once
in one place. What looks ahead or behind is refused, and so is an opening brace, which would begin
a count.
-/
namespace Modpack.Pattern

open Modpack.Text

/-! ## Groups -/

/-- The letters of the settings. -/
def flagLetters : List Char := ['i', 'm', 's', 'u', 'U', 'R', 'x']

/-- Settings, up to a colon or the end of the group, and which of both it is. -/
def flags? (flags : Flags) (negated dangling : Bool) :
    List Char → Option (Flags × Char × List Char)
  | [] => none
  | letter :: rest =>
    if letter = ':' ∨ letter = ')' then if dangling then none else some (flags, letter, rest)
    else if letter = '-' then if negated then none else flags? flags true true rest
    else if flags.on.contains letter || flags.off.contains letter
        || !flagLetters.contains letter then none
    else if negated then flags? { flags with off := letter :: flags.off } true false rest
    else flags? { flags with on := letter :: flags.on } false false rest

/-- Whether a name of a group may begin with a character. -/
def beginsName (character : Char) : Bool :=
  character = '_' || isAlphabetic character

/-- Whether a name of a group may go on with a character. -/
def continuesName (character : Char) : Bool :=
  ['_', '.', '[', ']'].contains character || isAlphanumeric character

/-- The name of a group, which ends before a closing angle bracket. -/
def groupName? (text : List Char) : Option (List Char × List Char) :=
  match text.takeWhile (· ≠ '>'), text.dropWhile (· ≠ '>') with
  | first :: more, _ :: rest =>
    if beginsName first && more.all continuesName then some (first :: more, rest) else none
  | _, _ => none

/-- How a group begins. -/
inductive Opening where
  /-- It is no group but settings for what follows. -/
  | flags (flags : Flags)
  /-- It is a group, perhaps with settings and perhaps with a name. -/
  | group (flags : Option Flags) (name : Option (List Char))

/-- The front of a group with a name. -/
def namedOpening? (text : List Char) : Option (Opening × List Char) :=
  (groupName? text).map fun found => (.group none (some found.1), found.2)

/-- The front of a group, after its parenthesis. -/
def opening? (spaced : Bool) (text : List Char) : Option (Opening × List Char) :=
  match skip spaced text with
  | '?' :: '=' :: _ | '?' :: '!' :: _ | '?' :: '<' :: '=' :: _ | '?' :: '<' :: '!' :: _ => none
  | '?' :: 'P' :: '<' :: rest => namedOpening? rest
  | '?' :: '<' :: rest => namedOpening? rest
  | '?' :: rest => do
    let (flags, ending, rest) ← flags? {} false false rest
    if ending = ':' then some (.group (some flags) none, rest)
    else if flags = {} then none
    else some (.flags flags, rest)
  | rest => some (.group none none, rest)

/-! ## Sequences -/

/-- Patterns one after the other, given the last one first. -/
def Node.ofSequence : List Node → Node
  | [] => .empty
  | [node] => node
  | nodes => .sequence nodes.reverse

/-- The last of several choices, given the last one first, and those before it. -/
def Node.ofChoices (before : List Node) (last : Node) : Node :=
  match before with
  | [] => last
  | _ => .choice (last :: before).reverse

/-- Whether there is something to repeat at the end of a sequence. -/
def Node.isRepeatable : Node → Bool
  | .empty | .flags _ => false
  | _ => true

/-- A character or what a backslash makes of it. -/
def atom? (spaced : Bool) : List Char → Option (Atom × List Char)
  | [] => none
  | '\\' :: rest => escape? spaced rest
  | '.' :: rest => some (.dot, rest)
  | '^' :: rest => some (.place false, rest)
  | '$' :: rest => some (.place false, rest)
  | character :: rest => some (.literal ⟨character, false⟩, rest)

/-- Where the reader of a group stands. -/
structure Reading where
  /-- Whether blanks and comments are passed over. -/
  spaced : Bool := false
  /-- The names of groups so far, in the whole pattern. -/
  names : List (List Char) := []
  /-- The choices read, the last one first. -/
  choices : List Node := []
  /-- The nodes of the choice being read, the last one first. -/
  nodes : List Node := []

namespace Reading

/-- What was read. -/
def node (reading : Reading) : Node :=
  .ofChoices reading.choices (.ofSequence reading.nodes)

/-- Add a node. -/
def push (reading : Reading) (node : Node) : Reading :=
  { reading with nodes := node :: reading.nodes }

/-- Begin the next choice. -/
def nextChoice (reading : Reading) : Reading :=
  { reading with choices := .ofSequence reading.nodes :: reading.choices, nodes := [] }

/-- Repeat the last node. -/
def repeatLast? (reading : Reading) : Option Reading :=
  match reading.nodes with
  | [] => none
  | node :: before =>
    if node.isRepeatable then some { reading with nodes := .repeated node :: before } else none

/-- Switch settings for what follows. -/
def switch (reading : Reading) (flags : Flags) : Reading :=
  { reading with spaced := (flags.state? 'x').getD reading.spaced }.push (.flags flags)

/-- Begin a group inside; its name must be new. -/
def enter? (reading : Reading) (flags : Option Flags) (name : Option (List Char)) :
    Option Reading :=
  if name.any reading.names.contains then none
  else
    some
      { spaced := (flags.bind fun flags => flags.state? 'x').getD reading.spaced
        names := name.toList ++ reading.names }

/-- Read to the end of a group or of the text. Each step takes a character or more, so a limit
above the length of the text is never reached. -/
def run? : Nat → Reading → List Char → Option (Reading × List Char)
  | 0, _, _ => none
  | limit + 1, reading, text =>
    match skip reading.spaced text with
    | [] => some (reading, [])
    | ')' :: rest => some (reading, ')' :: rest)
    | '|' :: rest => run? limit reading.nextChoice rest
    | '\x7b' :: _ => none
    | '[' :: rest => do
      let (node, rest) ← set? reading.spaced rest
      run? limit (reading.push node) rest
    | '(' :: rest => do
      let (opening, rest) ← opening? reading.spaced rest
      match opening with
      | .flags flags => run? limit (reading.switch flags) rest
      | .group flags name =>
        let inner ← reading.enter? flags name
        let (inner, rest) ← run? limit inner rest
        match rest with
        | ')' :: rest =>
          run? limit ({ reading with names := inner.names }.push (.group flags inner.node)) rest
        | _ => none
    | mark :: rest =>
      if mark = '?' ∨ mark = '*' ∨ mark = '+' then do
        let repeated ← reading.repeatLast?
        run? limit repeated (if rest.head? = some '?' then rest.drop 1 else rest)
      else do
        let (atom, rest) ← atom? reading.spaced (mark :: rest)
        run? limit (reading.push (.atom atom)) rest

end Reading

/-- Read a pattern. -/
def read? (text : List Char) : Option Node :=
  match Reading.run? (text.length + 1) {} text with
  | some (reading, []) => some reading.node
  | _ => none

end Modpack.Pattern
