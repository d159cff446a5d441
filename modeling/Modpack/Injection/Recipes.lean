import Modpack.Host
import Modpack.IdRanges
import Modpack.Injection.Pass

/-!
# Injecting recipes

A recipe starts from a copy of a template, the declared one or the first that makes an item, and
every field and list of the copy is then written, so nothing of the template remains. The items
it makes and takes are resolved before anything is written.
-/
namespace Modpack

/-- The recipe to start from: the declared one, or the first of the table that makes an item. -/
def templateFor (recipes : Table RecipeRecord) (entry : Entry RecipeDefinition) :
    Except InjectError RecipeRecord :=
  match entry.definition.baseRecipe with
  | some base =>
    match recipes.get? base with
    | some record => .ok record
    | none => .error (.baseMissing entry.key base)
  | none =>
    match recipes.records.entries.find? fun found => found.2.isItemRecipe with
    | some found => .ok found.2
    | none => .error (.templateMissing entry.key)

/-- What a recipe takes, with its items resolved. -/
def resolveIngredients (items : Registry ItemDefinition) (entry : Entry RecipeDefinition) :
    Except InjectError (List ListEntry) :=
  entry.definition.ingredients.mapM fun ingredient =>
    match items.resolveItem? entry.package.id ingredient.item with
    | some item => .ok (.ingredient item ingredient.count)
    | none => .error (.ingredientUnresolved entry.key ingredient.item.text)

/-- The title of a recipe without a name. -/
def unknownRecipeTitle : String := "Unknown Recipe"

/-- The title of a recipe. -/
def recipeTitle (entry : Entry RecipeDefinition) : String :=
  if entry.definition.name = "" then unknownRecipeTitle
  else entry.resolve entry.definition.name

/-- What a new recipe writes. -/
def recipeWrites (ids : IdRanges) (entry : Entry RecipeDefinition) (result : Nat) :
    List (RecipeField × FieldValue) :=
  let recipe := entry.definition
  [(.id, .id entry.id), (.kind, .text RecipeRecord.itemKind),
    (.index, .int (ids.recipeIndex entry.id)), (.requiredSkill, .int recipe.skillRequired),
    (.active, .bool true), (.difficulty, .int 0), (.title, .text (recipeTitle entry)),
    (.resultItem, .id result), (.resultCount, .int recipe.resultCount),
    (.bench, .text recipe.benchType.name)]

/-- A new recipe, ready to be put into the host. -/
structure RecipePlan where
  /-- Its id. -/
  id : Nat
  /-- Its record, sharing the lists of its template. -/
  record : RecipeRecord
  /-- What it takes. -/
  ingredients : List ListEntry

/-- Plan a new recipe. It fails when an item is not known or the template is missing. -/
def planRecipe (ids : IdRanges) (items : Registry ItemDefinition) (recipes : Table RecipeRecord)
    (entry : Entry RecipeDefinition) : Except InjectError RecipePlan :=
  match items.resolveItem? entry.package.id entry.definition.result with
  | none => .error (.resultUnresolved entry.key entry.definition.result.text)
  | some result => do
    let ingredients ← resolveIngredients items entry
    let template ← templateFor recipes entry
    match template.setAll (recipeWrites ids entry result) with
    | .error error => .error (.host error)
    | .ok record => .ok ⟨entry.id, record, ingredients⟩

/-- Put a planned recipe into the host. -/
def RecipePlan.carryOut (plan : RecipePlan) (tables : Tables) : Tables :=
  let (record, lists) := plan.record.detach tables.lists .requirePrimary
  let lists := plan.ingredients.foldl (fun lists entry => lists.push record.requirePrimary entry)
    lists
  let (record, lists) := record.detach lists .requireSecondary
  { tables with lists, recipes := tables.recipes.set plan.id record }

/-- Inject one recipe: pass over what is there, or make it. -/
def recipeStep (ids : IdRanges) (items : Registry ItemDefinition)
    (entry : Entry RecipeDefinition) (tables : Tables) : Except (Halt Tables) (Step Tables) :=
  if tables.recipes.contains entry.id then .ok ⟨.skipped, entry.id, tables⟩
  else do
    let plan ← leaving tables (planRecipe ids items tables.recipes entry)
    .ok ⟨.injected, entry.id, plan.carryOut tables⟩

/-- Inject all recipes of a registry. The pass does not begin while the table is not ready. -/
def injectRecipes (ids : IdRanges) (registry : Registry RecipeDefinition)
    (items : Registry ItemDefinition) (tables : Tables) :
    Except InjectError (Pass Tables RecipeDefinition) :=
  if tables.recipes.isReady then
    .ok (runPass (recipeStep ids items) registry.entries tables)
  else .error (.tableNotReady Tables.recipesName)

/-! ## Teaching recipes -/

/-- Teach a recipe if it unlocks by itself, its record is in the table, and it is not known. The
count grows by the recipes taught. -/
def unlockStep (recipes : Table RecipeRecord) (taught : Nat × IdMap Unit)
    (entry : Entry RecipeDefinition) : Nat × IdMap Unit :=
  match entry.definition.autoUnlock, entry.materializedIn? recipes.contains with
  | true, some id => if taught.2.contains id then taught else (taught.1 + 1, taught.2.insert id ())
  | _, _ => taught

/-- Teach every recipe that unlocks by itself and is in the table. The answer counts those that
were not known, and has the recipes known afterwards. -/
def unlockRecipes (registry : Registry RecipeDefinition) (recipes : Table RecipeRecord)
    (book : IdMap Unit) : Nat × IdMap Unit :=
  registry.entries.foldl (unlockStep recipes) (0, book)

end Modpack
