import Modpack.Engine
import Modpack.Proofs.ItemSteps
import Modpack.Proofs.RecipeSteps
import Modpack.Proofs.Registries

/-!
# What the engine's operations come to

Registering a package offers its definitions to the registries and touches nothing else. An
injection is one of three things: nothing at all, the item pass alone, or the item pass followed
by the recipe pass. Two engines have the same content when their registries agree but for the
records last written; every operation but registering keeps an engine's content.
-/
namespace Modpack.Engine

/-! ## Registering -/

/-- The engine after packages were registered in order. -/
def registerAll (engine : Engine) (packages : List Package) : Engine :=
  packages.foldl (fun engine package => (engine.registerPackage package).engine) engine

/-- Registering packages and then more is registering all of them. -/
theorem registerAll_append (engine : Engine) (first second : List Package) :
    engine.registerAll (first ++ second) = (engine.registerAll first).registerAll second :=
  List.foldl_append

/-- The engine after definitions of one kind is the one that offering each of them leads to. -/
theorem registerEach_engine {δ : Type} {register : Engine → δ → Except RegisterError (Nat × Engine)}
    (offer : Engine → δ → Engine)
    (steps : ∀ engine definition, (match register engine definition with
      | .ok registered => registered.2
      | .error _ => engine) = offer engine definition)
    (sofar : Registration) (definitions : List δ) :
    (registerEach register sofar definitions).engine = definitions.foldl offer sofar.engine := by
  induction definitions generalizing sofar with
  | nil => rfl
  | cons definition rest ih =>
    have now := steps sofar.engine definition
    rw [List.foldl_cons, ← now]
    rw [registerEach, List.foldl_cons, ← registerEach, ih]
    cases register sofar.engine definition <;> rfl

/-- Registering items offers them to the registry of items. -/
theorem registerItems_engine (info : PackageInfo) (sofar : Registration)
    (items : List ItemDefinition) :
    (registerEach (fun engine => engine.registerItem info) sofar items).engine =
      { sofar.engine with items := sofar.engine.items.acceptAll info items } := by
  rw [registerEach_engine (fun engine item =>
    { engine with items := engine.items.accept info item })]
  · generalize sofar.engine = engine
    induction items generalizing engine with
    | nil => rfl
    | cons item rest ih => exact ih { engine with items := engine.items.accept info item }
  · intro engine item
    rw [registerItem, Registry.accept]
    cases engine.items.register info item <;> rfl

/-- Registering recipes offers them to the registry of recipes. -/
theorem registerRecipes_engine (info : PackageInfo) (sofar : Registration)
    (recipes : List RecipeDefinition) :
    (registerEach (fun engine => engine.registerRecipe info) sofar recipes).engine =
      { sofar.engine with recipes := sofar.engine.recipes.acceptAll info recipes } := by
  rw [registerEach_engine (fun engine recipe =>
    { engine with recipes := engine.recipes.accept info recipe })]
  · generalize sofar.engine = engine
    induction recipes generalizing engine with
    | nil => rfl
    | cons recipe rest ih => exact ih { engine with recipes := engine.recipes.accept info recipe }
  · intro engine recipe
    rw [registerRecipe, Registry.accept]
    cases engine.recipes.register info recipe <;> rfl

/-- Registering quests changes the quests only. -/
theorem registerQuests_engine (info : PackageInfo) (sofar : Registration)
    (quests : List QuestDefinition) :
    ∃ catalog, (registerEach (fun engine => engine.registerQuest info) sofar quests).engine =
      { sofar.engine with quests := catalog } := by
  rw [registerEach_engine (fun engine quest =>
    match engine.registerQuest info quest with
    | .ok registered => registered.2
    | .error _ => engine) fun _ _ => rfl]
  generalize sofar.engine = engine
  induction quests generalizing engine with
  | nil => exact ⟨engine.quests, rfl⟩
  | cons quest rest ih =>
    obtain ⟨catalog, same⟩ := ih (match engine.registerQuest info quest with
      | .ok registered => registered.2
      | .error _ => engine)
    refine ⟨catalog, same.trans ?_⟩
    rw [registerQuest]
    cases engine.quests.register info quest <;> rfl

/-- Registering a package offers its definitions to the registries. -/
theorem registerPackage_engine (engine : Engine) (package : Package) :
    ∃ catalog, (engine.registerPackage package).engine =
      { engine with
        packages := engine.packages ++ [package.info]
        items := engine.items.acceptAll package.info package.items
        recipes := engine.recipes.acceptAll package.info package.recipes
        quests := catalog } := by
  obtain ⟨catalog, same⟩ := registerQuests_engine package.info
    (registerEach (fun engine => engine.registerRecipe package.info)
      (registerEach (fun engine => engine.registerItem package.info)
        ⟨{ packages := 1 }, [], engine⟩ package.items) package.recipes) package.quests
  refine ⟨catalog, ?_⟩
  rw [registerPackage]
  simp only [same, registerRecipes_engine, registerItems_engine]

/-- Registering packages changes neither where numbers begin nor what injection keeps. -/
theorem registerAll_frame (engine : Engine) (packages : List Package) :
    (engine.registerAll packages).ids = engine.ids ∧
      (engine.registerAll packages).marks = engine.marks ∧
      (engine.registerAll packages).injected = engine.injected := by
  induction packages generalizing engine with
  | nil => exact ⟨rfl, rfl, rfl⟩
  | cons package rest ih =>
    obtain ⟨catalog, same⟩ := registerPackage_engine engine package
    have later := ih (engine.registerPackage package).engine
    rw [same] at later
    change ((engine.registerPackage package).engine.registerAll rest).ids = _ ∧
      ((engine.registerPackage package).engine.registerAll rest).marks = _ ∧
      ((engine.registerPackage package).engine.registerAll rest).injected = _
    rw [same]
    exact later

/-- Discovering packages registers them in order. -/
theorem discover_engine (engine : Engine) (packages : List Package) :
    (engine.discover packages).engine = engine.registerAll packages := by
  rw [discover, registerAll]
  generalize start : (⟨{}, [], engine⟩ : Registration) = sofar
  obtain rfl : sofar.engine = engine := by rw [← start]
  clear start
  induction packages generalizing sofar with
  | nil => rfl
  | cons package rest ih => exact ih _

/-! ## Injecting -/

/-- The item pass of the engine over tables. -/
def itemPass (engine : Engine) (tables : Tables) : Pass ItemState ItemDefinition :=
  runPass (itemStep engine.ids) engine.items.entries ⟨tables, engine.marks⟩

/-- The engine after its item pass. -/
def afterItems (engine : Engine) (tables : Tables) : Engine :=
  { engine with
    items := { engine.items with entries := (engine.itemPass tables).entries }
    marks := (engine.itemPass tables).state.marks
    injected := true }

/-- The recipe pass of the engine over tables. -/
def recipePass (engine : Engine) (tables : Tables) : Pass Tables RecipeDefinition :=
  runPass (recipeStep engine.ids engine.items) engine.recipes.entries tables

/-- The engine after its recipe pass. -/
def afterRecipes (engine : Engine) (tables : Tables) : Engine :=
  { engine with
    recipes := { engine.recipes with entries := (engine.recipePass tables).entries } }

/-- What comes of the item pass alone. -/
def itemsInjection (engine : Engine) (tables : Tables) : Injection :=
  { report := (engine.itemPass tables).report
    failures := (engine.itemPass tables).failures
    engine := (engine.afterItems tables).compileQuests
    tables := (engine.itemPass tables).state.tables }

/-- What comes of the item pass and the recipe pass after it. -/
def fullInjection (engine : Engine) (tables : Tables) : Injection :=
  let started := engine.afterItems tables
  let between := (engine.itemPass tables).state.tables
  { report := (engine.itemPass tables).report.merge (started.recipePass between).report
    failures := (engine.itemPass tables).failures ++ (started.recipePass between).failures
    engine := (started.afterRecipes between).compileQuests
    tables := (started.recipePass between).state }

/-- Over a table that is ready the item pass runs. -/
theorem injectItems_of_ready {engine : Engine} {tables : Tables}
    (ready : tables.items.isReady = true) :
    engine.injectItems tables = .ok
      { report := (engine.itemPass tables).report
        failures := (engine.itemPass tables).failures
        engine := { engine.afterItems tables with injected := engine.injected }
        tables := (engine.itemPass tables).state.tables } := by
  rw [injectItems, Modpack.injectItems, if_pos ready]
  rfl

/-- Over a table that is not ready the item pass does not run. -/
theorem injectItems_of_unready {engine : Engine} {tables : Tables}
    (unready : tables.items.isReady = false) :
    engine.injectItems tables = .error (.tableNotReady Tables.itemsName) := by
  rw [injectItems, Modpack.injectItems, unready]
  rfl

/-- Over a table that is ready the recipe pass runs. -/
theorem injectRecipes_of_ready {engine : Engine} {tables : Tables}
    (ready : tables.recipes.isReady = true) :
    engine.injectRecipes tables = .ok
      { report := (engine.recipePass tables).report
        failures := (engine.recipePass tables).failures
        engine := engine.afterRecipes tables
        tables := (engine.recipePass tables).state } := by
  rw [injectRecipes, Modpack.injectRecipes, if_pos ready]
  rfl

/-- Over a table that is not ready the recipe pass does not run. -/
theorem injectRecipes_of_unready {engine : Engine} {tables : Tables}
    (unready : tables.recipes.isReady = false) :
    engine.injectRecipes tables = .error (.tableNotReady Tables.recipesName) := by
  rw [injectRecipes, Modpack.injectRecipes, unready]
  rfl

/-- The item pass leaves the recipe table alone. -/
theorem itemPass_recipes (engine : Engine) (tables : Tables) :
    (engine.itemPass tables).state.tables.recipes = tables.recipes :=
  runPass_relates (fun before after : ItemState => after.tables.recipes = before.tables.recipes)
    (fun _ => rfl) (fun first second => second.trans first)
    (fun _ _ _ _ ok => itemStep_recipes ok) ⟨tables, engine.marks⟩

/-- The recipe pass leaves the item table alone. -/
theorem recipePass_items (engine : Engine) (tables : Tables) :
    (engine.recipePass tables).state.items = tables.items :=
  runPass_relates (fun before after : Tables => after.items = before.items)
    (fun _ => rfl) (fun first second => second.trans first)
    (fun _ _ _ _ ok => recipeStep_items ok) tables

/-- An injection that is not skipped, over tables that are ready, runs both passes. -/
theorem injectContent_of_ready {engine : Engine} {tables : Tables}
    (runs : ¬(engine.injected = true ∧ engine.needsInjection tables = false))
    (itemsReady : tables.items.isReady = true) (recipesReady : tables.recipes.isReady = true) :
    engine.injectContent tables = engine.fullInjection tables := by
  have skipped : ¬(engine.injected && !engine.needsInjection tables) = true := by
    simpa using runs
  have ready : (engine.itemPass tables).state.tables.recipes.isReady = true := by
    rw [itemPass_recipes]
    exact recipesReady
  rw [injectContent, if_neg skipped, injectItems_of_ready itemsReady]
  simp only [injectRecipes_of_ready ready]
  rfl

/-- An injection over an item table that is not ready does nothing. -/
theorem injectContent_of_items_unready {engine : Engine} {tables : Tables}
    (unready : tables.items.isReady = false) :
    engine.injectContent tables = ⟨{}, [], engine, tables⟩ := by
  rw [injectContent, injectItems_of_unready unready]
  exact ite_self _

/-- An injection that is not skipped runs the item pass alone while the recipe table is not
ready. -/
theorem injectContent_of_recipes_unready {engine : Engine} {tables : Tables}
    (runs : ¬(engine.injected = true ∧ engine.needsInjection tables = false))
    (itemsReady : tables.items.isReady = true) (recipesUnready : tables.recipes.isReady = false) :
    engine.injectContent tables = engine.itemsInjection tables := by
  have skipped : ¬(engine.injected && !engine.needsInjection tables) = true := by
    simpa using runs
  have unready : (engine.itemPass tables).state.tables.recipes.isReady = false := by
    rw [itemPass_recipes]
    exact recipesUnready
  rw [injectContent, if_neg skipped, injectItems_of_ready itemsReady]
  simp only [injectRecipes_of_unready unready]
  rfl

/-- Everything an injection can come to. -/
inductive InjectTurn (engine : Engine) (tables : Tables) : Injection → Prop
  /-- It is skipped, or the item table is not ready. -/
  | nothing : InjectTurn engine tables ⟨{}, [], engine, tables⟩
  /-- The recipe table is not ready. -/
  | items : InjectTurn engine tables (engine.itemsInjection tables)
  /-- Both passes ran. -/
  | full : InjectTurn engine tables (engine.fullInjection tables)

/-- An injection comes to one of the listed turns. -/
theorem injectContent_turn (engine : Engine) (tables : Tables) :
    InjectTurn engine tables (engine.injectContent tables) := by
  by_cases runs : engine.injected = true ∧ engine.needsInjection tables = false
  · rw [injectContent, runs.1, runs.2]
    exact .nothing
  · cases itemsReady : tables.items.isReady with
    | false =>
      rw [injectContent_of_items_unready itemsReady]
      exact .nothing
    | true =>
      cases recipesReady : tables.recipes.isReady with
      | false =>
        rw [injectContent_of_recipes_unready runs itemsReady recipesReady]
        exact .items
      | true =>
        rw [injectContent_of_ready runs itemsReady recipesReady]
        exact .full

/-! ## Content -/

/-- Two engines number alike and have the same definitions under the same numbers. -/
structure SameContent (left right : Engine) : Prop where
  /-- They number alike. -/
  ids : left.ids = right.ids
  /-- They have the same items. -/
  items : left.items.forget = right.items.forget
  /-- They have the same recipes. -/
  recipes : left.recipes.forget = right.recipes.forget

/-- An engine has its own content. -/
theorem SameContent.refl (engine : Engine) : engine.SameContent engine := ⟨rfl, rfl, rfl⟩

/-- An engine has the content of one that has its content. -/
theorem SameContent.symm {left right : Engine} (same : left.SameContent right) :
    right.SameContent left :=
  ⟨same.ids.symm, same.items.symm, same.recipes.symm⟩

/-- What has the content of one that has the content of a third has that content too. -/
theorem SameContent.trans {left middle right : Engine} (first : left.SameContent middle)
    (second : middle.SameContent right) : left.SameContent right :=
  ⟨first.ids.trans second.ids, first.items.trans second.items,
    first.recipes.trans second.recipes⟩

/-- Registering a package keeps two engines with the same content so. -/
theorem SameContent.registerPackage {left right : Engine} (same : left.SameContent right)
    (package : Package) :
    (left.registerPackage package).engine.SameContent (right.registerPackage package).engine := by
  obtain ⟨catalog, first⟩ := registerPackage_engine left package
  obtain ⟨catalog', second⟩ := registerPackage_engine right package
  rw [first, second]
  refine ⟨same.ids, ?_, ?_⟩
  · rw [Registry.acceptAll_forget, Registry.acceptAll_forget, same.items]
  · rw [Registry.acceptAll_forget, Registry.acceptAll_forget, same.recipes]

/-- Registering packages keeps two engines with the same content so. -/
theorem SameContent.registerAll {left right : Engine} (same : left.SameContent right)
    (packages : List Package) :
    (left.registerAll packages).SameContent (right.registerAll packages) := by
  induction packages generalizing left right with
  | nil => exact same
  | cons package rest ih => exact ih (same.registerPackage package)

/-- The item pass keeps the content. -/
theorem sameContent_afterItems (engine : Engine) (tables : Tables) :
    (engine.afterItems tables).SameContent engine :=
  ⟨rfl, Registry.forget_of_entries (runPass_entries_forget _ _), rfl⟩

/-- The recipe pass keeps the content. -/
theorem sameContent_afterRecipes (engine : Engine) (tables : Tables) :
    (engine.afterRecipes tables).SameContent engine :=
  ⟨rfl, rfl, Registry.forget_of_entries (runPass_entries_forget _ _)⟩

/-- An injection keeps the content. -/
theorem sameContent_injectContent (engine : Engine) (tables : Tables) :
    (engine.injectContent tables).engine.SameContent engine := by
  have first := sameContent_afterItems engine tables
  have turn := injectContent_turn engine tables
  generalize engine.injectContent tables = injection at turn ⊢
  cases turn with
  | nothing => exact .refl engine
  | items => exact ⟨first.ids, first.items, first.recipes⟩
  | full =>
    have second := (sameContent_afterRecipes (engine.afterItems tables)
      (engine.itemPass tables).state.tables).trans first
    exact ⟨second.ids, second.items, second.recipes⟩

/-! ## Soundness -/

/-- Neither items nor recipes got a number after the largest one. -/
structure InRange (engine : Engine) : Prop where
  /-- The counter of items is in range. -/
  items : engine.items.InRange
  /-- The counter of recipes is in range. -/
  recipes : engine.recipes.InRange

instance (engine : Engine) : Decidable engine.InRange :=
  decidable_of_iff (engine.items.InRange ∧ engine.recipes.InRange)
    ⟨fun ⟨items, recipes⟩ => ⟨items, recipes⟩, fun ⟨items, recipes⟩ => ⟨items, recipes⟩⟩

/-- Of engines with the same content both have their counters in range or none has. -/
theorem InRange.of_sameContent {left right : Engine} (inRange : left.InRange)
    (same : left.SameContent right) : right.InRange :=
  ⟨inRange.items.of_forget_eq same.items, inRange.recipes.of_forget_eq same.recipes⟩

/-- The registries of an engine number from their bases and hold known items only. -/
structure Sound (engine : Engine) (known : ItemDefinition → Prop) : Prop where
  /-- The items are sound. -/
  items : engine.items.Sound known
  /-- Items are numbered from their base. -/
  itemBase : engine.items.base = engine.ids.itemBase
  /-- The recipes are sound. -/
  recipes : engine.recipes.Sound fun _ => True
  /-- Recipes are numbered from their base. -/
  recipeBase : engine.recipes.base = engine.ids.recipeBase

/-- An engine without content is sound. -/
theorem sound_empty (ids : IdRanges) (known : ItemDefinition → Prop) : (empty ids).Sound known :=
  ⟨Registry.sound_empty _ _, rfl, Registry.sound_empty _ _, rfl⟩

/-- Registering packages of known items keeps an engine sound. -/
theorem Sound.registerAll {engine : Engine} {known : ItemDefinition → Prop}
    (sound : engine.Sound known) {packages : List Package}
    (isKnown : ∀ package ∈ packages, ∀ item ∈ package.items, item.id ≠ "" → known item) :
    (engine.registerAll packages).Sound known := by
  induction packages generalizing engine with
  | nil => exact sound
  | cons package rest ih =>
    have next : (engine.registerPackage package).engine.Sound known := by
      obtain ⟨catalog, same⟩ := registerPackage_engine engine package
      obtain ⟨items, itemBase⟩ :=
        sound.items.acceptAll package.info (isKnown package List.mem_cons_self)
      obtain ⟨recipes, recipeBase⟩ := sound.recipes.acceptAll package.info
        fun definition (_ : definition ∈ package.recipes) _ => trivial
      rw [same]
      exact ⟨items, itemBase.trans sound.itemBase, recipes, recipeBase.trans sound.recipeBase⟩
    exact ih next fun other member => isKnown other (List.mem_cons_of_mem package member)

/-- An engine with the content of a sound one is sound. -/
theorem Sound.of_sameContent {left right : Engine} {known : ItemDefinition → Prop}
    (sound : right.Sound known) (same : left.SameContent right) : left.Sound known := by
  refine ⟨sound.items.of_forget_eq same.items, ?_, sound.recipes.of_forget_eq same.recipes, ?_⟩
  · rw [same.ids, ← sound.itemBase]
    exact Registry.base_of_forget_eq same.items
  · rw [same.ids, ← sound.recipeBase]
    exact Registry.base_of_forget_eq same.recipes

end Modpack.Engine
