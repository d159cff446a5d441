import Modpack.Document.Fields

/-!
# Where numbers begin

The first numbers that the registries give out, the first string key of items, and the place of
the first recipe in the host's list.
-/
namespace Modpack

/-- The first numbers of all counters. -/
structure IdRanges where
  /-- The first number of an item. -/
  itemBase : Nat := 60000
  /-- The first number of a recipe. -/
  recipeBase : Nat := 51000
  /-- The first number of a quest. -/
  questBase : Nat := 70000
  /-- The string key of the first item's title. -/
  stringKeyBase : Nat := 990000
  /-- The place of the first recipe. -/
  recipeIndexBase : Int := 40
deriving DecidableEq, Repr

namespace IdRanges

/-- The string key of an item's title, in 32 bits. Items below the first number share the keys of
the first. -/
def titleKey (ids : IdRanges) (item : Nat) : Nat :=
  (ids.stringKeyBase + (item - ids.itemBase) * 2) % Whole.idLimit

/-- The string key of an item's description: the one after its title's, in 32 bits. -/
def descriptionKey (ids : IdRanges) (item : Nat) : Nat :=
  (ids.titleKey item + 1) % Whole.idLimit

/-- The place of a recipe in the host's list, in 64 bits. -/
def recipeIndex (ids : IdRanges) (recipe : Nat) : Int :=
  Whole.wrapWide (ids.recipeIndexBase + recipe - ids.recipeBase)

/-- A title key that fits 32 bits is the base and two for every item before. -/
theorem titleKey_of_lt {ids : IdRanges} {item : Nat}
    (fits : ids.stringKeyBase + (item - ids.itemBase) * 2 < Whole.idLimit) :
    ids.titleKey item = ids.stringKeyBase + (item - ids.itemBase) * 2 :=
  Nat.mod_eq_of_lt fits

open Document

/-- The fields of the ranges. -/
def schema : List Field :=
  [field "item_base", field "recipe_base", field "quest_base", field "string_key_base",
    field "recipe_index_base"]

/-- Ranges from a document; what is not written takes its default. -/
def ofValue? (format : Format) (value : Value) : Option IdRanges := do
  let found ← fields? format schema value
  let plain : IdRanges := {}
  let itemBase ← withDefault? plain.itemBase id? found "item_base"
  let recipeBase ← withDefault? plain.recipeBase id? found "recipe_base"
  let questBase ← withDefault? plain.questBase id? found "quest_base"
  let stringKeyBase ← withDefault? plain.stringKeyBase id? found "string_key_base"
  let recipeIndexBase ← withDefault? plain.recipeIndexBase wide? found "recipe_index_base"
  some { itemBase, recipeBase, questBase, stringKeyBase, recipeIndexBase }

end IdRanges

end Modpack
