import Modpack.Pattern.Reader

/-!
# Patterns that can be matched

Not every pattern that can be read can be matched. Texts are matched as Unicode or, where the
setting `u` is off, by their octets. As Unicode, nothing can be matched that needs a table of
characters: shorthands, characters in any case, and the borders of words. By octets, nothing can be
matched that may stop inside a character: any character, all others, and octets past the first
128. A pattern must not be nested too deep.
-/
namespace Modpack.Pattern

/-- The settings that decide what can be matched. -/
structure Mode where
  /-- Whether texts are matched as Unicode. -/
  unicode : Bool := true
  /-- Whether letters are matched in any case. -/
  anyCase : Bool := false
deriving DecidableEq, Repr

/-- The mode after settings are switched. -/
def Mode.switch (mode : Mode) (flags : Flags) : Mode :=
  { unicode := (flags.state? 'u').getD mode.unicode
    anyCase := (flags.state? 'i').getD mode.anyCase }

/-- Whether a character can be matched. -/
def Mode.matches (mode : Mode) (literal : Literal) : Bool :=
  if mode.unicode then !mode.anyCase
  else !literal.isOctet || literal.character.toNat < 128

/-- Whether a character can be matched as the member of a set. -/
def Mode.matchesMember (mode : Mode) (literal : Literal) : Bool :=
  if mode.unicode then !mode.anyCase else literal.character.toNat < 128

/-- Whether an atom can be matched. -/
def Mode.matchesAtom (mode : Mode) : Atom → Bool
  | .literal single => mode.matches single
  | .dot => mode.unicode
  | .place ofWord => !(ofWord && mode.unicode)
  | .shorthand negated => !mode.unicode && !negated

mutual

/-- Whether a set can be matched. -/
def CharSet.canMatch (mode : Mode) : CharSet → Bool
  | .empty => true
  | .literal single => mode.matchesMember single
  | .range first last => mode.matchesMember first && mode.matchesMember last
  | .named negated => if mode.unicode then !mode.anyCase else !negated
  | .shorthand negated => !mode.unicode && !negated
  | .bracketed negated content => (mode.unicode || !negated) && content.canMatch mode
  | .union members => CharSet.canMatchAll mode members
  | .operation left right => left.canMatch mode && right.canMatch mode

/-- Whether all of several sets can be matched. -/
def CharSet.canMatchAll (mode : Mode) : List CharSet → Bool
  | [] => true
  | set :: rest => set.canMatch mode && CharSet.canMatchAll mode rest

end

mutual

/-- The mode behind a pattern that can be matched. -/
def Node.modeAfter? (mode : Mode) : Node → Option Mode
  | .empty => some mode
  | .flags switched => some (mode.switch switched)
  | .atom least => if mode.matchesAtom least then some mode else none
  | .set negated content =>
    if (mode.unicode || !negated) && content.canMatch mode then some mode else none
  | .repeated node => node.modeAfter? mode
  | .group switched node =>
    (node.modeAfter? (switched.elim mode mode.switch)).map fun _ => mode
  | .sequence nodes => Node.modeAfterAll? mode nodes
  | .choice nodes => Node.modeAfterAll? mode nodes

/-- The mode behind several patterns that can be matched. -/
def Node.modeAfterAll? (mode : Mode) : List Node → Option Mode
  | [] => some mode
  | node :: rest => (node.modeAfter? mode).bind fun mode => Node.modeAfterAll? mode rest

end

/-- How deep a pattern may be nested. -/
def depthLimit : Nat := 250

/-- Whether a text is a pattern that can be matched. -/
def isPattern (text : List Char) : Bool :=
  match read? text with
  | some node => node.depth ≤ depthLimit && (node.modeAfter? {}).isSome
  | none => false

end Modpack.Pattern
