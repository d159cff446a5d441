import Modpack.Document.Value
import Modpack.Number.Whole

/-!
# Reading records and plain values

A record of a definition has a fixed list of fields. It is written either as named fields in any
order, where unknown names are passed over and no field may stand twice, be it under its own
name or another one it answers to; or as a list of the first fields in order. `fields?` finds
the value written for each field, and the readers below turn such a value into what the field
holds. A field that is not written takes its default, if it has one.
-/
namespace Modpack.Document

/-- A field of a record: its own name first, then the others it answers to. -/
structure Field where
  /-- Its own name. -/
  name : String
  /-- Other names it may be written under. -/
  aliases : List String
deriving DecidableEq

/-- A field with one name. -/
def field (name : String) : Field := ⟨name, []⟩

/-- Whether a field may be written under a name. -/
def Field.answersTo (field : Field) (name : String) : Bool :=
  name == field.name || field.aliases.contains name

/-- What is written for the fields of a record, each under the field's own name. -/
abbrev Found := List (String × Value)

/-- The values written under names. No field may be written twice. -/
def named? (schema : List Field) : List (String × Value) → Option Found
  | [] => some []
  | (name, value) :: rest => do
    let found ← named? schema rest
    match schema.find? (·.answersTo name) with
    | none => some found
    | some field =>
      if (found.lookup field.name).isSome then none else some ((field.name, value) :: found)

/-- The values written in order. JSON lists must not be longer than the record; of a longer TOML
list the rest is passed over. -/
def positional? (format : Format) (schema : List Field) (items : List Value) : Option Found :=
  if format = .json ∧ schema.length < items.length then none
  else some ((schema.map Field.name).zip items)

/-- What a value says about the fields of a record. A date says nothing about any. -/
def fields? (format : Format) (schema : List Field) : Value → Option Found
  | .record fields => named? schema fields
  | .list items => positional? format schema items
  | .moment => some []
  | _ => none

/-! ## What a field holds -/

variable {α : Type}

/-- The content of a field that must be written. -/
def required? (read : Value → Option α) (found : Found) (name : String) : Option α :=
  (found.lookup name).bind read

/-- The content of a field, or its default when it is not written. -/
def withDefault? (default : α) (read : Value → Option α) (found : Found) (name : String) :
    Option α :=
  match found.lookup name with
  | some value => read value
  | none => some default

/-- A text. -/
def text? : Value → Option String
  | .text value => some value
  | _ => none

/-- True or false. -/
def bool? : Value → Option Bool
  | .bool value => some value
  | _ => none

/-- A whole number of 64 bits. -/
def wide? : Value → Option Int
  | .int value => Whole.within? Whole.minWide Whole.maxWide value
  | _ => none

/-- A whole number of 32 bits. -/
def count? : Value → Option Int
  | .int value => Whole.within? Whole.minCount Whole.maxCount value
  | _ => none

/-- The id of a record. -/
def id? : Value → Option Nat
  | .int value => if 0 ≤ value ∧ value < Whole.idLimit then some value.toNat else none
  | _ => none

/-- A number, whole or not. -/
def float? : Value → Option Float
  | .int value => some (Float.ofInt value)
  | .float value => some value
  | _ => none

/-- A list. -/
def list? (read : Value → Option α) : Value → Option (List α)
  | .list items => items.mapM read
  | _ => none

/-- Something or nothing. -/
def orNull? (read : Value → Option α) : Value → Option (Option α)
  | .null => some none
  | value => (read value).map some

/-- Whether a value may stand where a name needs none: nothing in JSON, an empty table or list
in TOML. -/
def isVoid (format : Format) : Value → Bool
  | .null => format = .json
  | .list [] => format = .toml
  | .record [] => format = .toml
  | _ => false

/-- A name, written as a text or as a record of one field without content. -/
def name? (format : Format) : Value → Option String
  | .text name => some name
  | .record [(name, value)] => if isVoid format value then some name else none
  | _ => none

end Modpack.Document
