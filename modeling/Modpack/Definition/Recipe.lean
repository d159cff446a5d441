import Modpack.Definition.ItemRef
import Modpack.Text.Lower

/-!
# Recipe definitions

What a package says about a recipe: the item it makes, what it takes, and where it is crafted.
-/
namespace Modpack

/-- The station a recipe needs. -/
inductive Bench where
  | nothing
  | normal
  | kitchen
  | drugLab
deriving DecidableEq, Repr

namespace Bench

/-- The host's name of a station. -/
def name : Bench → String
  | nothing => "nothing"
  | normal => "normal"
  | kitchen => "kitchen"
  | drugLab => "drug_lab"

/-- The station a package names, in any case; a name that is not known means none. -/
def ofName (name : String) : Bench :=
  let lowered := Text.lowered name
  if lowered = "normal" then normal
  else if lowered = "kitchen" then kitchen
  else if lowered = "druglab" ∨ lowered = "drug" then drugLab
  else nothing

end Bench

/-- Something a recipe takes. -/
structure IngredientDefinition where
  /-- The item. -/
  item : ItemRef
  /-- How many of it. -/
  count : Int := 1
deriving DecidableEq, Repr

/-- A recipe as a package defines it. -/
structure RecipeDefinition where
  /-- The id, unique in its package. -/
  id : String
  /-- The item it makes. -/
  result : ItemRef
  /-- How many it makes. -/
  resultCount : Int := 1
  /-- The name shown, or a phrase key. -/
  name : String := ""
  /-- The station, as the package names it. -/
  bench : String := "none"
  /-- The skill it takes. -/
  skillRequired : Int := 0
  /-- Whether the player learns it without doing anything. -/
  autoUnlock : Bool := true
  /-- The host recipe it starts from; the first one that makes an item when absent. -/
  baseRecipe : Option Nat := none
  /-- What it takes, in order. -/
  ingredients : List IngredientDefinition := []
deriving DecidableEq, Repr

/-- A recipe with an id and a result, and every other field at its default. -/
def RecipeDefinition.minimal (id : String) (result : ItemRef) : RecipeDefinition :=
  { id := id, result := result }

/-- The station the recipe needs. -/
def RecipeDefinition.benchType (recipe : RecipeDefinition) : Bench :=
  Bench.ofName recipe.bench

/-! ## Reading -/

open Document

/-- The fields of an ingredient. -/
def IngredientDefinition.schema : List Field := [field "item", field "count"]

/-- An ingredient from a document. -/
def IngredientDefinition.ofValue? (format : Format) (value : Value) :
    Option IngredientDefinition := do
  let found ← fields? format schema value
  let item ← required? ItemRef.ofValue? found "item"
  let count ← withDefault? 1 count? found "count"
  some { item, count }

namespace RecipeDefinition

/-- The fields of a recipe. -/
def schema : List Field :=
  [field "id", field "result", field "resultCount", field "name", field "bench",
    field "skillRequired", field "autoUnlock", field "baseRecipe", field "ingredients"]

/-- A recipe from a document. -/
def ofValue? (format : Format) (value : Value) : Option RecipeDefinition := do
  let found ← fields? format schema value
  let id ← required? text? found "id"
  let result ← required? ItemRef.ofValue? found "result"
  let plain := minimal id result
  let resultCount ← withDefault? plain.resultCount count? found "resultCount"
  let name ← withDefault? plain.name text? found "name"
  let bench ← withDefault? plain.bench text? found "bench"
  let skillRequired ← withDefault? plain.skillRequired wide? found "skillRequired"
  let autoUnlock ← withDefault? plain.autoUnlock bool? found "autoUnlock"
  let baseRecipe ← withDefault? plain.baseRecipe (orNull? id?) found "baseRecipe"
  let ingredients ← withDefault? plain.ingredients
    (list? (IngredientDefinition.ofValue? format)) found "ingredients"
  some { id, result, resultCount, name, bench, skillRequired, autoUnlock, baseRecipe, ingredients }

end RecipeDefinition

end Modpack
