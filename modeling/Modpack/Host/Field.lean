import Modpack.Number.Whole

/-!
# Values of record fields

A host record is read and written by field name, with values of six types. A field accepts a
value of its own type, and some neighbours: integers and ids stand for each other, and a number
may be whole. Narrowing keeps the last 32 bits and does not fail.
-/
namespace Modpack

/-- Why the host refuses to do something. -/
inductive HostError where
  /-- A record has no field of this name. -/
  | unknownField (name : String)
  /-- A field does not accept a value of this type. -/
  | fieldType (field : String) (given : String)
  /-- A record has no list of this name. -/
  | unknownList (name : String)
  /-- No quest of this id is under way. -/
  | unknownQuest (quest : String)
  /-- A quest has no node of this id under way. -/
  | unknownNode (quest node : String)
deriving DecidableEq, Repr

/-- The words for a refusal. -/
def HostError.message : HostError → String
  | unknownField name => "record has no field '" ++ name ++ "'"
  | fieldType field given => "field '" ++ field ++ "' does not accept " ++ given
  | unknownList name => "record has no list '" ++ name ++ "'"
  | unknownQuest quest => "quest '" ++ quest ++ "' is not known to the host"
  | unknownNode quest node => "quest '" ++ quest ++ "' has no node '" ++ node ++ "'"

/-- A value written into a field or read from one. -/
inductive FieldValue where
  /-- A whole number. -/
  | int (value : Int)
  /-- A number. -/
  | float (value : Float)
  /-- True or false. -/
  | bool (value : Bool)
  /-- A text. -/
  | text (value : String)
  /-- The id of a record. -/
  | id (value : Nat)
  /-- A picture, by its path. -/
  | asset (value : String)
deriving DecidableEq

namespace FieldValue

/-- The name of a value's type. -/
def typeName : FieldValue → String
  | int _ => "int"
  | float _ => "float"
  | bool _ => "bool"
  | text _ => "text"
  | id _ => "id"
  | asset _ => "asset"

/-- Whether two values are equal as the host compares them; numbers by their numerical value, so
both zeros are equal and what is not a number equals nothing. -/
def same : FieldValue → FieldValue → Bool
  | int left, int right => left == right
  | float left, float right => left == right
  | bool left, bool right => left == right
  | text left, text right => left == right
  | id left, id right => left == right
  | asset left, asset right => left == right
  | _, _ => false

/-- The refusal of a value by a field. -/
def refuse {α : Type} (value : FieldValue) (field : String) : Except HostError α :=
  .error (.fieldType field value.typeName)

/-- The last 32 bits of a whole number, as an id. -/
def narrow (value : Int) : Nat :=
  (value % (Whole.idLimit : Int)).toNat

/-- A value for a whole number field. -/
def toInt (value : FieldValue) (field : String) : Except HostError Int :=
  match value with
  | int number => .ok number
  | id number => .ok number
  | _ => value.refuse field

/-- A value for a number field. -/
def toFloat (value : FieldValue) (field : String) : Except HostError Float :=
  match value with
  | float number => .ok number
  | int number => .ok (Float.ofInt number)
  | _ => value.refuse field

/-- A value for a field that is true or false. -/
def toBool (value : FieldValue) (field : String) : Except HostError Bool :=
  match value with
  | bool truth => .ok truth
  | _ => value.refuse field

/-- A value for a text field. -/
def toText (value : FieldValue) (field : String) : Except HostError String :=
  match value with
  | text content => .ok content
  | _ => value.refuse field

/-- A value for an id field; a whole number must not be negative. -/
def toId (value : FieldValue) (field : String) : Except HostError Nat :=
  match value with
  | id number => .ok number
  | int number => if 0 ≤ number then .ok (narrow number) else value.refuse field
  | _ => value.refuse field

/-- A value for a picture field. -/
def toAsset (value : FieldValue) (field : String) : Except HostError String :=
  match value with
  | asset path => .ok path
  | _ => value.refuse field

/-- An id keeps its value when narrowed. -/
theorem narrow_of_lt {value : Nat} (small : value < Whole.idLimit) :
    narrow value = value := by
  simp only [Whole.idLimit] at small
  simp only [narrow, Whole.idLimit]
  omega

end FieldValue

end Modpack
