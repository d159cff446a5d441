import Modpack.Number.Decimal
import Modpack.Pattern.Matchable
import Modpack.Text.Alphanumeric
import Modpack.Text.Blank
import Modpack.Text.Lower
import Modpack.Text.Octets

/-!
# Log filters

A log filter says how much is told of what happens. It is one directive, written as
`target[span{field=value,field}]=level`. Every part but one may be missing, and what stands alone
is a level if it is the name of one and a target otherwise. A comma may end it.

`Directive.read` walks over the filter without the blanks around it, but cuts the parts out of
the filter as written, at positions counted in octets from the first character that is no blank.
So blanks in front shift every part, and a position may then fall inside a character, where no
cut can be made. Blanks at the end belong to the last part.
-/
namespace Modpack.LogFilter

open Modpack.Text

/-! ## Levels -/

/-- How much is told, from nothing to everything. -/
inductive Level where
  | off
  | error
  | warn
  | info
  | debug
  | trace
deriving DecidableEq, Repr

namespace Level

/-- Every level, from nothing to everything. -/
def all : List Level := [off, error, warn, info, debug, trace]

/-- The name of a level. -/
def name : Level → String
  | off => "off"
  | error => "error"
  | warn => "warn"
  | info => "info"
  | debug => "debug"
  | trace => "trace"

/-- The number of a level. -/
def number : Level → Nat
  | off => 0
  | error => 1
  | warn => 2
  | info => 3
  | debug => 4
  | trace => 5

/-- Whether a message of another level is told at this one. -/
def tells (level message : Level) : Bool :=
  message.number ≤ level.number

/-- The level of a number, or of a name in any case. -/
def ofText? (text : List Char) : Option Level :=
  match (Whole.unsigned? text).bind fun number => all[number]? with
  | some level => some level
  | none => all.find? fun level => sameAscii level.name (String.ofList text)

end Level

/-! ## Directives -/

/-- Whether a text can be the value of a field: a number, or a pattern for texts. -/
def isValue (text : List Char) : Bool :=
  (Decimal.float? (String.ofList text)).isSome || Pattern.isPattern text

/-- A field that events must have. -/
structure FieldPattern where
  /-- Its name. -/
  name : String
  /-- Whether a value is asked for, too. -/
  hasValue : Bool
deriving DecidableEq, Repr

/-- A field and perhaps its value, which stands between an equals sign and the next one. -/
def FieldPattern.ofText? (text : List Char) : Option FieldPattern :=
  let name := String.ofList (text.takeWhile (· ≠ '='))
  match text.dropWhile (· ≠ '=') with
  | [] => some ⟨name, false⟩
  | _ :: rest => if isValue (rest.takeWhile (· ≠ '=')) then some ⟨name, true⟩ else none

/-- What is told of which events. -/
structure Directive where
  /-- How the targets of the events begin. -/
  target : Option String := none
  /-- The span the events lie in. -/
  span : Option String := none
  /-- The fields the events have. -/
  fields : List FieldPattern := []
  /-- How much is told of them. -/
  level : Level := .trace
deriving DecidableEq, Repr

/-- Why a filter cannot be used. -/
inductive Refusal where
  /-- It is no directive. -/
  | malformed
  /-- A part of it would begin or end inside a character. -/
  | insideCharacter
deriving DecidableEq, Repr

/-- The words for a refusal. -/
def Refusal.message : Refusal → String
  | malformed => "the log filter is malformed"
  | insideCharacter => "the log filter cannot be cut inside a character"

namespace Directive

/-- The part of a directive that is being read, with the position it starts at. -/
inductive Part where
  /-- Nothing is read. -/
  | start
  /-- A target, or a level that stands alone. -/
  | head (position : Nat)
  /-- The name of a span. -/
  | span (position : Nat)
  /-- A field. -/
  | field (position : Nat)
  /-- The fields are read. -/
  | fields
  /-- The brackets are read. -/
  | closed
  /-- A level. -/
  | level (position : Nat)
  /-- Everything is read. -/
  | complete
deriving DecidableEq, Repr

/-- What was cut out of a filter, if it could be cut. -/
def cut (found : Option (List Char)) : Except Refusal (List Char) :=
  match found with
  | some part => .ok part
  | none => .error .insideCharacter

/-- Take what stands alone as a level if it is one, and as a target otherwise. -/
def withHead (directive : Directive) (text : List Char) : Directive :=
  match Level.ofText? text with
  | some level => { directive with level := level, target := none }
  | none => { directive with level := .trace, target := some (String.ofList text) }

/-- Take a level; no text stands for everything. -/
def withLevel (directive : Directive) (text : List Char) : Except Refusal Directive :=
  if text = [] then .ok { directive with level := .trace }
  else match Level.ofText? text with
    | some level => .ok { directive with level := level }
    | none => .error .malformed

/-- Add a field; its text must not be empty. -/
def withField (directive : Directive) (text : List Char) : Except Refusal Directive :=
  if text = [] then .error .malformed
  else match FieldPattern.ofText? text with
    | some field => .ok { directive with fields := directive.fields ++ [field] }
    | none => .error .malformed

/-- Whether a directive may begin with a character. -/
def opens (character : Char) : Bool :=
  isAlphanumeric character || ['-', ':', '_'].contains character

/-- Read one character of a filter, at its position. -/
def step (filter : List Char) (state : Part × Directive) (next : Nat × Char) :
    Except Refusal (Part × Directive) := do
  let (part, directive) := state
  let (position, character) := next
  match part, character with
  | .start, '[' => .ok (.span (position + 1), directive)
  | .start, _ => if opens character then .ok (.head position, directive) else .error .malformed
  | .head start, '=' =>
    let target ← cut (between? filter start position)
    .ok (.level (position + 1), { directive with target := some (String.ofList target) })
  | .head start, '[' =>
    let target ← cut (between? filter start position)
    .ok (.span (position + 1), { directive with target := some (String.ofList target) })
  | .head start, ',' =>
    let head ← cut (onward? filter start)
    .ok (.complete, directive.withHead head)
  | .head _, _ => .ok state
  | .span start, ']' =>
    let name ← cut (between? filter start position)
    .ok (.closed, { directive with span := some (String.ofList name) })
  | .span start, '\x7b' =>
    let name ← cut (between? filter start position)
    let span := if name = [] then none else some (String.ofList name)
    .ok (.field (position + 1), { directive with span := span })
  | .span _, _ => .ok state
  | .field start, '\x7d' =>
    let field ← cut (between? filter start position)
    return (.fields, ← directive.withField field)
  | .field start, ',' =>
    let field ← cut (between? filter start position)
    return (.field (position + 1), ← directive.withField field)
  | .field _, _ => .ok state
  | .fields, ']' => .ok (.closed, directive)
  | .closed, '=' => .ok (.level (position + 1), directive)
  | .level start, ',' =>
    let level ← cut (between? filter start position)
    return (.complete, ← directive.withLevel level)
  | .level _, _ => .ok state
  | _, _ => .error .malformed

/-- Finish the part at the end of a filter. -/
def finish (filter : List Char) : Part × Directive → Except Refusal Directive
  | (.head start, directive) => (cut (onward? filter start)).map directive.withHead
  | (.level start, directive) => (cut (onward? filter start)).bind directive.withLevel
  | (.closed, directive) => .ok directive
  | (.complete, directive) => .ok directive
  | _ => .error .malformed

/-- Read a filter. -/
def read (filter : List Char) : Except Refusal Directive :=
  ((positioned 0 (trim filter)).foldlM (step filter) (.start, {})).bind (finish filter)

end Directive

/-! ## What a check tells -/

/-- The target of the messages of a check. -/
def reportTarget : String := "content_forge"

/-- The one field of the messages of a check. -/
def messageField : String := "message"

/-- Whether a directive goes before the default for the messages of a check. A shorter target
stands behind the default, a longer one means other messages, and a span or a value is never
there. -/
def Directive.governsReport (directive : Directive) : Bool :=
  directive.target == some reportTarget && directive.span.isNone
    && directive.fields.all fun field => field.name == messageField && !field.hasValue

/-- How much of a check is told when no filter speaks of it. -/
def defaultLevel : Level := .info

/-- How much of a check is told under a filter. A malformed filter is passed over. -/
def reportLevel (filter : Option String) : Except Refusal Level :=
  match filter.map fun text => Directive.read text.toList with
  | some (.ok directive) =>
    .ok (if directive.governsReport then directive.level else defaultLevel)
  | some (.error .insideCharacter) => .error .insideCharacter
  | some (.error .malformed) | none => .ok defaultLevel

end Modpack.LogFilter
