import Modpack.Effect.Apply
import Modpack.Injection.Items
import Modpack.Injection.Recipes
import Modpack.Quest.Evaluation

/-!
# The engine

The engine keeps what packages define and serves the host: it registers packages, puts their
items and recipes into the host's tables whenever these are filled anew, looks at quests when
the host reports something about an item, and applies the effects of items. None of these fails
as a whole; what goes wrong with single definitions is reported beside the result.
-/
namespace Modpack

/-- What packages define, with what was done about it. -/
structure Engine where
  /-- Where numbers begin. -/
  ids : IdRanges
  /-- The packages, in the order they were registered. -/
  packages : List PackageInfo
  /-- The items. -/
  items : Registry ItemDefinition
  /-- The recipes. -/
  recipes : Registry RecipeDefinition
  /-- The quests and their graphs. -/
  quests : QuestCatalog
  /-- The missing icons and the bags. -/
  marks : Marks
  /-- The names of stats. -/
  aliases : Effect.Aliases
  /-- Whether items were ever put into the host. -/
  injected : Bool

/-- What came of registering packages. -/
structure Discovery where
  /-- The packages. -/
  packages : Nat := 0
  /-- The definitions registered. -/
  registered : Nat := 0
  /-- The definitions refused. -/
  rejected : Nat := 0
deriving DecidableEq, Repr

/-- Two results of registering as one. -/
def Discovery.merge (left right : Discovery) : Discovery :=
  { packages := left.packages + right.packages
    registered := left.registered + right.registered
    rejected := left.rejected + right.rejected }

namespace Engine

/-- The engine before anything was registered. -/
def empty (ids : IdRanges) : Engine :=
  { ids
    packages := []
    items := .empty ids.itemBase
    recipes := .empty ids.recipeBase
    quests := .empty ids.questBase
    marks := .empty
    aliases := .builtin
    injected := false }

/-! ## Registering -/

/-- Register an item. -/
def registerItem (engine : Engine) (package : PackageInfo) (item : ItemDefinition) :
    Except RegisterError (Nat × Engine) :=
  (engine.items.register package item).map fun registered =>
    (registered.1, { engine with items := registered.2 })

/-- Register a recipe. -/
def registerRecipe (engine : Engine) (package : PackageInfo) (recipe : RecipeDefinition) :
    Except RegisterError (Nat × Engine) :=
  (engine.recipes.register package recipe).map fun registered =>
    (registered.1, { engine with recipes := registered.2 })

/-- Register a quest. -/
def registerQuest (engine : Engine) (package : PackageInfo) (quest : QuestDefinition) :
    Except RegisterError (Nat × Engine) :=
  (engine.quests.register package quest).map fun registered =>
    (registered.1, { engine with quests := registered.2 })

/-- What came of registering, with the definitions refused and the engine afterwards. -/
structure Registration where
  /-- How many definitions came to what. -/
  discovery : Discovery
  /-- Why definitions were refused, in order. -/
  errors : List RegisterError
  /-- The engine. -/
  engine : Engine

/-- Register definitions of one kind, in order, and count what became of them. -/
def registerEach {δ : Type} (register : Engine → δ → Except RegisterError (Nat × Engine))
    (sofar : Registration) (definitions : List δ) : Registration :=
  definitions.foldl (fun sofar definition =>
    match register sofar.engine definition with
    | .ok (_, engine) =>
      { sofar with
        discovery := sofar.discovery.merge { registered := 1 }
        engine := engine }
    | .error error =>
      { sofar with
        discovery := sofar.discovery.merge { rejected := 1 }
        errors := sofar.errors ++ [error] }) sofar

/-- Register a package: its items, then its recipes, then its quests. -/
def registerPackage (engine : Engine) (package : Package) : Registration :=
  let info := package.info
  let start : Registration := ⟨{ packages := 1 }, [], engine⟩
  let items := registerEach (fun engine => engine.registerItem info) start package.items
  let recipes := registerEach (fun engine => engine.registerRecipe info) items package.recipes
  let quests := registerEach (fun engine => engine.registerQuest info) recipes package.quests
  { quests with engine := { quests.engine with packages := engine.packages ++ [info] } }

/-- Register packages in order. -/
def discover (engine : Engine) (packages : List Package) : Registration :=
  packages.foldl (fun sofar package =>
    let next := sofar.engine.registerPackage package
    { discovery := sofar.discovery.merge next.discovery
      errors := sofar.errors ++ next.errors
      engine := next.engine }) ⟨{}, [], engine⟩

/-- Whether a package of an id was registered; the case of plain letters does not matter. -/
def isPackageLoaded (engine : Engine) (id : String) : Bool :=
  engine.packages.any fun package => Text.sameAscii package.id id

/-! ## Injecting -/

/-- What came of injecting, with the entries that failed and the state afterwards. -/
structure Injection where
  /-- How many entries came to what. -/
  report : Report
  /-- The entries that failed, in order. -/
  failures : List Failure
  /-- The engine. -/
  engine : Engine
  /-- The tables of the host. -/
  tables : Tables

/-- Whether the tables lack what the engine put there: its first item, its first recipe, or the
effect of some patch. -/
def needsInjection (engine : Engine) (tables : Tables) : Bool :=
  engine.items.needsInjection tables.items.contains
    || engine.recipes.needsInjection tables.recipes.contains
    || patchesOutdated engine.items tables.items

/-- Inject the items. -/
def injectItems (engine : Engine) (tables : Tables) : Except InjectError Injection :=
  (Modpack.injectItems engine.ids engine.items ⟨tables, engine.marks⟩).map fun pass =>
    { report := pass.report
      failures := pass.failures
      engine :=
        { engine with
          items := { engine.items with entries := pass.entries }
          marks := pass.state.marks }
      tables := pass.state.tables }

/-- Inject the recipes. -/
def injectRecipes (engine : Engine) (tables : Tables) : Except InjectError Injection :=
  (Modpack.injectRecipes engine.ids engine.recipes engine.items tables).map fun pass =>
    { report := pass.report
      failures := pass.failures
      engine := { engine with recipes := { engine.recipes with entries := pass.entries } }
      tables := pass.state }

/-- Make the graphs of all quests. -/
def compileQuests (engine : Engine) : Engine :=
  { engine with quests := engine.quests.compileAll engine.items }

/-- Inject the items, then the recipes, then make the graphs of all quests. Nothing is done when
this was done before and the tables lack nothing, or when the item table is not ready; recipes
are left out while their table is not ready. -/
def injectContent (engine : Engine) (tables : Tables) : Injection :=
  if engine.injected && !engine.needsInjection tables then ⟨{}, [], engine, tables⟩
  else match engine.injectItems tables with
    | .error _ => ⟨{}, [], engine, tables⟩
    | .ok items =>
      let started := { items.engine with injected := true }
      match started.injectRecipes items.tables with
      | .error _ => { items with engine := started.compileQuests }
      | .ok recipes =>
        { report := items.report.merge recipes.report
          failures := items.failures ++ recipes.failures
          engine := recipes.engine.compileQuests
          tables := recipes.tables }

/-! ## Notifications -/

/-- What came of a notification. -/
structure Reaction where
  /-- What was injected, if the tables had to be filled again. -/
  reinjected : Option Report
  /-- What was done about quests. -/
  evaluation : Evaluation
  /-- The entries that failed, in order. -/
  failures : List Failure
  /-- The engine. -/
  engine : Engine
  /-- The host. -/
  host : Host

/-- Look at the host's quests, if a notification is about an item. -/
def evaluateQuests (engine : Engine) (notification : Notification) (host : Host) :
    Evaluation × Engine × Host :=
  let (evaluation, state) := evaluate engine.items notification ⟨engine.quests, host.quests⟩
  (evaluation, { engine with quests := state.catalog }, { host with quests := state.log })

/-- React to a notification: after a session was loaded, fill the tables again if they lack
something; after something about an item, look at the quests. -/
def onAction (engine : Engine) (notification : Notification) (host : Host) : Reaction :=
  if notification.isSessionReload then
    if engine.needsInjection host.tables then
      let injection := engine.injectContent host.tables
      ⟨some injection.report, {}, injection.failures, injection.engine,
        { host with tables := injection.tables }⟩
    else ⟨none, {}, [], engine, host⟩
  else
    let (evaluation, engine, host) := engine.evaluateQuests notification host
    ⟨none, evaluation, [], engine, host⟩

/-! ## Items -/

/-- The stats after an item was used; nothing when the item is not the engine's. -/
def useItem? (engine : Engine) (id : Nat) (stats : StatStore) : Option StatStore :=
  (engine.items.effectsOf? id).map fun effects => Effect.applyAll engine.aliases effects stats

/-- The tooltip of an item; nothing when the item is not the engine's. -/
def describeItem? (engine : Engine) (id : Nat) : Option (List Effect.Line) :=
  (engine.items.effectsOf? id).map fun effects => effects.map Effect.line

/-- Copy the missing icon of an item that is about to be shown, if it can be copied. -/
def displayItem (engine : Engine) (id : Nat) (tables : Tables) : Bool × Engine × Tables :=
  let (copied, state) := retryIcon id ⟨tables, engine.marks⟩
  (copied, { engine with marks := state.marks }, state.tables)

/-- Copy every missing icon that can be copied. The answer counts them. -/
def resolveIcons (engine : Engine) (tables : Tables) : Nat × Engine × Tables :=
  let (count, state) := retryIcons ⟨tables, engine.marks⟩
  (count, { engine with marks := state.marks }, state.tables)

/-- How many icons are missing. -/
def pendingIconCount (engine : Engine) : Nat :=
  engine.marks.pendingIcons.size

/-- Whether an item is a bag of the engine. -/
def isBag (engine : Engine) (id : Nat) : Bool :=
  engine.marks.bags.contains id

/-- Add a name for a stat. -/
def registerAlias (engine : Engine) (name : String) (stat : Stat) : Engine :=
  { engine with aliases := engine.aliases.register name stat }

/-! ## Recipes and quests -/

/-- Teach the player every recipe that unlocks by itself and is in the host's table. The answer
counts those that were not known. -/
def unlockRecipes (engine : Engine) (host : Host) : Nat × Host :=
  let (count, book) := Modpack.unlockRecipes engine.recipes host.tables.recipes host.book
  (count, { host with book := book })

/-- The graph of a quest, made now if it was not before. -/
def questGraph? (engine : Engine) (quest : String) : Option QuestGraph × Engine :=
  let (graph, quests) := engine.quests.graph? quest engine.items
  (graph, { engine with quests := quests })

end Engine

end Modpack
