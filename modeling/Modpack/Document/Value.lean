/-!
# Values of a document

What a package document says once its notation is read: a tree of lists and records over plain
values. Fields of a record keep their written order and may repeat; what a repeated field means
is for the reader of the record to say. Whole numbers and fractional ones stay apart.
-/
namespace Modpack

/-- The notation a document is written in. -/
inductive Format where
  | json
  | toml
deriving DecidableEq, Repr

/-- A value of a document. -/
inductive Value where
  /-- Nothing. -/
  | null
  /-- True or false. -/
  | bool (value : Bool)
  /-- A whole number, written without point or exponent. -/
  | int (value : Int)
  /-- Any other number. -/
  | float (value : Float)
  /-- A text. -/
  | text (value : String)
  /-- A date or a time of day. No definition has one, so which one it is does not matter. -/
  | moment
  /-- Values in order. -/
  | list (items : List Value)
  /-- Named values in written order. -/
  | record (fields : List (String × Value))
  /-- Well-formed notation that stands for no value, such as a number beyond every range. It does
  no harm where nobody asks for it. -/
  | unreadable
deriving Inhabited

end Modpack
