import Modpack.Document.Fields

/-!
# References to items

Recipes and quests name the items they need, either by the number of a record or by a name that
the registry of items resolves.
-/
namespace Modpack

/-- A reference to an item. -/
inductive ItemRef where
  /-- By the number of its record. -/
  | id (number : Nat)
  /-- By its name, which may be qualified by a package. -/
  | name (text : String)
deriving DecidableEq, Repr

namespace ItemRef

/-- A reference as text. -/
def text : ItemRef → String
  | id number => Whole.text number
  | name text => text

/-- A reference written as a number or as a text. -/
def ofValue? : Value → Option ItemRef
  | .text text => some (.name text)
  | value => (Document.id? value).map .id

end ItemRef

end Modpack
