import Modpack.Pattern.AtomReader

/-!
# Reading sets of characters

A set in brackets holds members, ranges, named sets and further sets in brackets. Two ampersands,
hyphens or tildes join what stands before them to what stands behind. At the front of a set,
hyphens stand for themselves, and so does a closing bracket.
-/
namespace Modpack.Pattern

/-- The names of sets of the first 128 characters. -/
def setNames : List String :=
  ["alnum", "alpha", "ascii", "blank", "cntrl", "digit", "graph", "lower", "print", "punct",
    "space", "upper", "word", "xdigit"]

/-- A named set, after its bracket; what is none is read as a set in brackets. -/
def namedSet? : List Char → Option (CharSet × List Char)
  | ':' :: text =>
    let negated := text.head? = some '^'
    let text := if negated then text.drop 1 else text
    match text.dropWhile (· ≠ ':') with
    | ':' :: ']' :: rest =>
      if setNames.contains (String.ofList (text.takeWhile (· ≠ ':'))) then
        some (.named negated, rest)
      else none
    | _ => none
  | _ => none

/-- A member of a set by itself; only a backslash has a meaning here. -/
def member? (spaced : Bool) : List Char → Option (Atom × List Char)
  | [] => none
  | '\\' :: rest => escape? spaced rest
  | character :: rest => some (.literal ⟨character, false⟩, rest)

/-- An atom as a set. -/
def CharSet.ofAtom? : Atom → Option CharSet
  | .literal single => some (.literal single)
  | .shorthand negated => some (.shorthand negated)
  | .dot | .place _ => none

/-- The characters from one atom to another. -/
def CharSet.range? : Atom → Atom → Option CharSet
  | .literal first, .literal last =>
    if first.character ≤ last.character then some (.range first last) else none
  | _, _ => none

/-- A member or a range. A hyphen at the end of a set or before another one makes no range. -/
def memberOrRange? (spaced : Bool) (text : List Char) : Option (CharSet × List Char) := do
  let (first, rest) ← member? spaced text
  match skip spaced rest with
  | [] => none
  | '-' :: after =>
    if peek? spaced after = some ']' ∨ peek? spaced after = some '-' then
      (CharSet.ofAtom? first).map fun set => (set, '-' :: after)
    else
      let (last, rest) ← member? spaced (skip spaced after)
      (CharSet.range? first last).map fun set => (set, rest)
  | after => (CharSet.ofAtom? first).map fun set => (set, after)

/-- Members, the last one first, as one set. -/
def CharSet.ofMembers : List CharSet → CharSet
  | [] => .empty
  | [set] => set
  | members => .union members.reverse

/-- The operand so far joined with members. -/
def CharSet.join (operand : Option CharSet) (members : List CharSet) : CharSet :=
  match operand with
  | some left => .operation left (.ofMembers members)
  | none => .ofMembers members

/-- The hyphens at the front of a set, no more than a number of them. -/
def hyphens (spaced : Bool) : Nat → List CharSet → List Char → List CharSet × List Char
  | limit + 1, found, '-' :: rest =>
    hyphens spaced limit (.literal ⟨'-', false⟩ :: found) (skip spaced rest)
  | _, found, text => (found, text)

/-- The front of a set: whether it stands for all other characters, and the characters that stand
for themselves only there. -/
def setFront (spaced : Bool) (text : List Char) : Bool × List CharSet × List Char :=
  let text := skip spaced text
  let negated := text.head? = some '^'
  let text := if negated then skip spaced (text.drop 1) else text
  match hyphens spaced text.length [] text with
  | ([], ']' :: rest) => (negated, [.literal ⟨']', false⟩], skip spaced rest)
  | (found, rest) => (negated, found, rest)

/-- The rest of a set, given the operand so far and the members behind it, the last one first.
Each step takes a character or more, so a limit above the length of the text is never reached. -/
def setRest? (spaced : Bool) :
    Nat → Option CharSet → List CharSet → List Char → Option (CharSet × List Char)
  | 0, _, _, _ => none
  | limit + 1, operand, members, text =>
    match skip spaced text with
    | [] => none
    | ']' :: rest => some (.join operand members, rest)
    | '[' :: rest =>
      match namedSet? rest with
      | some (set, rest) => setRest? spaced limit operand (set :: members) rest
      | none => do
        let (negated, inner, rest) := setFront spaced rest
        let (content, rest) ← setRest? spaced limit none inner rest
        setRest? spaced limit operand (.bracketed negated content :: members) rest
    | '&' :: '&' :: rest => setRest? spaced limit (some (.join operand members)) [] rest
    | '-' :: '-' :: rest => setRest? spaced limit (some (.join operand members)) [] rest
    | '~' :: '~' :: rest => setRest? spaced limit (some (.join operand members)) [] rest
    | text => do
      let (set, rest) ← memberOrRange? spaced text
      setRest? spaced limit operand (set :: members) rest

/-- A set, after its opening bracket. -/
def set? (spaced : Bool) (text : List Char) : Option (Node × List Char) := do
  let (negated, members, rest) := setFront spaced text
  let (content, rest) ← setRest? spaced (text.length + 1) none members rest
  some (.set negated content, rest)

end Modpack.Pattern
