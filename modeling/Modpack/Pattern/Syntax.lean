/-!
# Patterns

A pattern describes texts. It is built from atoms, sets of characters in brackets, groups,
repetitions, sequences and choices; settings may be switched inside it, from where they stand to
the end of the group. Patterns are only checked here and never matched, so nothing is kept that
the checks do not ask for: which shorthand is meant, how often something is repeated, and which
operation joins two sets.
-/
namespace Modpack.Pattern

/-- A character that stands for itself. -/
structure Literal where
  /-- The character. -/
  character : Char
  /-- Whether it is written as the two hexadecimal digits of an octet. -/
  isOctet : Bool := false
deriving DecidableEq, Repr

/-- The least parts of a pattern, apart from sets in brackets. -/
inductive Atom where
  /-- A character. -/
  | literal (literal : Literal)
  /-- Any character. -/
  | dot
  /-- A place in the text, which may depend on what is part of a word. -/
  | place (ofWord : Bool)
  /-- The digits, the blanks or the characters of words, or all others. -/
  | shorthand (negated : Bool)
deriving DecidableEq, Repr

/-- A set of characters. -/
inductive CharSet where
  /-- No character. -/
  | empty
  /-- One character. -/
  | literal (literal : Literal)
  /-- The characters from one to another. -/
  | range (first last : Literal)
  /-- One of the named sets of the first 128 characters, or all others. -/
  | named (negated : Bool)
  /-- A shorthand. -/
  | shorthand (negated : Bool)
  /-- A set in brackets, or all others. -/
  | bracketed (negated : Bool) (content : CharSet)
  /-- The characters of any of two or more sets. -/
  | union (members : List CharSet)
  /-- What two sets share, or by which they differ. -/
  | operation (left right : CharSet)

/-- Settings that are switched, each at most once. -/
structure Flags where
  /-- The letters of those switched on. -/
  on : List Char := []
  /-- The letters of those switched off. -/
  off : List Char := []
deriving DecidableEq, Repr

/-- How a setting is switched, if it is. -/
def Flags.state? (flags : Flags) (letter : Char) : Option Bool :=
  if flags.on.contains letter then some true
  else if flags.off.contains letter then some false
  else none

/-- A pattern. -/
inductive Node where
  /-- The empty text. -/
  | empty
  /-- Settings for what follows in the group. -/
  | flags (flags : Flags)
  /-- An atom. -/
  | atom (atom : Atom)
  /-- A set in brackets, or all other characters. -/
  | set (negated : Bool) (content : CharSet)
  /-- A pattern that may be repeated or left out. -/
  | repeated (node : Node)
  /-- A group, perhaps with settings of its own. -/
  | group (flags : Option Flags) (node : Node)
  /-- Two or more patterns one after the other. -/
  | sequence (nodes : List Node)
  /-- Any of two or more patterns. -/
  | choice (nodes : List Node)

/-! ## Depth -/

mutual

/-- How deep the sets inside a set are nested. -/
def CharSet.depth : CharSet → Nat
  | .bracketed _ content => content.depth + 1
  | .union members => CharSet.depthAll members + 1
  | .operation left right => max left.depth right.depth + 1
  | .empty | .literal _ | .range .. | .named _ | .shorthand _ => 0

/-- The depth of the deepest of several sets. -/
def CharSet.depthAll : List CharSet → Nat
  | [] => 0
  | set :: rest => max set.depth (CharSet.depthAll rest)

end

mutual

/-- How deep the parts of a pattern are nested. -/
def Node.depth : Node → Nat
  | .set _ content => content.depth + 1
  | .repeated node => node.depth + 1
  | .group _ node => node.depth + 1
  | .sequence nodes => Node.depthAll nodes + 1
  | .choice nodes => Node.depthAll nodes + 1
  | .empty | .flags _ | .atom _ => 0

/-- The depth of the deepest of several patterns. -/
def Node.depthAll : List Node → Nat
  | [] => 0
  | node :: rest => max node.depth (Node.depthAll rest)

end

end Modpack.Pattern
