import Modpack.Host.ItemRecord
import Modpack.Host.QuestLog
import Modpack.Host.RecipeRecord
import Modpack.Host.Table
import Modpack.Stat

/-!
# The host

The simulation that packages are injected into: its item, recipe and string tables, the stats
of the character, the quest log and the recipes the player knows. A seeded host has one template
item of each shape and one template recipe. Reloading drops the records of both tables and puts
fresh templates in; strings, stats, quests and known recipes outlive it.
-/
namespace Modpack

/-- The tables that injection writes into, with the store of nested lists. -/
structure Tables where
  /-- The nested lists of all records. -/
  lists : ListStore
  /-- The items. -/
  items : Table ItemRecord
  /-- The recipes. -/
  recipes : Table RecipeRecord
  /-- The display strings. -/
  strings : StringTable

namespace Tables

/-- The host's name of the item table. -/
def itemsName : String := "item"

/-- The host's name of the recipe table. -/
def recipesName : String := "recipe"

/-- Tables the host has not filled yet. -/
def empty : Tables := ⟨.empty, .empty, .empty, .empty⟩

/-- Put a new item record under its id, changed before it is put there. -/
def addItem (tables : Tables) (id : Nat) (variant : ItemVariant)
    (change : ItemRecord → ItemRecord) : Tables :=
  let (record, lists) := ItemRecord.create tables.lists id variant
  { tables with lists := lists, items := tables.items.set id (change record) }

/-- Put a new recipe record under its id. -/
def addRecipe (tables : Tables) (id : Nat) (kind : String) : Tables :=
  let (record, lists) := RecipeRecord.create tables.lists id kind
  { tables with lists := lists, recipes := tables.recipes.set id record }

/-- Add an entry to a nested list of an item, without counting it as a write. -/
def pushToItem (tables : Tables) (id : Nat) (list : ItemList) (entry : ListEntry) : Tables :=
  match tables.items.get? id with
  | some record => { tables with lists := tables.lists.push (record.handle list) entry }
  | none => tables

/-- Add an entry to a nested list of a recipe, without counting it as a write. -/
def pushToRecipe (tables : Tables) (id : Nat) (list : RecipeList) (entry : ListEntry) : Tables :=
  match tables.recipes.get? id with
  | some record => { tables with lists := tables.lists.push (record.handle list) entry }
  | none => tables

/-- The tables with the host's templates put in. -/
def withTemplates (tables : Tables) : Tables :=
  let withIcon (path : String) (record : ItemRecord) := { record with icon := some path }
  let tables := tables.addItem 1 .consumable (withIcon "vanilla/consumable.png")
  let tables := tables.pushToItem 1 .changes (.parameter "food" 10)
  let tables := tables.addItem 2 .gear (withIcon "vanilla/gear.png")
  let tables := tables.pushToItem 2 .parameterChanges (.parameter "warm" 5)
  let tables := tables.addItem 3 .weapon (withIcon "vanilla/weapon.png")
  let tables := tables.addItem 4 .bag fun record => { record with capacity := 10.0 }
  let tables := tables.addItem 5 .scrap id
  let tables := tables.addRecipe 100 RecipeRecord.itemKind
  tables.pushToRecipe 100 .requirePrimary (.ingredient 5 2)

/-- The tables after the host dropped and rebuilt its records. -/
def reload (tables : Tables) : Tables :=
  { tables with items := tables.items.clear, recipes := tables.recipes.clear }.withTemplates

/-- All writes received. -/
def totalWrites (tables : Tables) : Nat :=
  tables.items.writes + tables.recipes.writes + tables.strings.writes

end Tables

/-- The simulation packages are injected into. -/
structure Host where
  /-- Its tables. -/
  tables : Tables
  /-- The character's stats. -/
  stats : StatStore
  /-- Quests and belongings. -/
  quests : QuestLog
  /-- The recipes the player knows. -/
  book : IdMap Unit

namespace Host

/-- A host that has not built its tables. -/
def empty : Host := ⟨.empty, .empty, .empty, .empty⟩

/-- The state of every stat of a seeded host. -/
def seededGauge : Gauge := ⟨50.0, 100.0⟩

/-- A host with templates, and every stat at half. -/
def seeded : Host :=
  { empty with tables := Tables.empty.withTemplates, stats := ⟨fun _ => some seededGauge⟩ }

/-- The host after it dropped and rebuilt its records. -/
def reload (host : Host) : Host :=
  { host with tables := host.tables.reload }

end Host

end Modpack
