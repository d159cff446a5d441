import Modpack.Proofs.FreshItems
import Modpack.Proofs.FreshRecipes

/-!
# Load order

Packages whose definitions have keys of their own, make records of their own and mention the host's
numbers only may be registered in any order, as long as the counters stay in range. Each definition
comes to the same in an injection into the same tables: it is injected, waits for an icon or fails
for the same reason, and what it shows is the same but for the numbers. The renaming of items leads
from the numbers of one order to those of the other, and recipes and quests agree under it. Out of
range it depends on the order which definition gets a number of the host and is passed over.
-/
namespace Modpack

/-! ## Packages and tables -/

/-- Every item that a quest waits for by a number is the host's. -/
def QuestDefinition.OnHost (ids : IdRanges) (quest : QuestDefinition) : Prop :=
  ∀ stage ∈ quest.stages, ∀ wait, stage.wait = some wait →
    ∀ reference, wait.item = some reference → reference.Below ids.itemBase

instance QuestDefinition.decidableOnHost (ids : IdRanges) (quest : QuestDefinition) :
    Decidable (quest.OnHost ids) :=
  inferInstanceAs (Decidable (∀ stage ∈ quest.stages, ∀ wait ∈ stage.wait,
    ∀ reference ∈ wait.item, reference.Below ids.itemBase))

/-- Packages whose definitions have keys of their own, make records of their own and mention the
host's numbers only. -/
structure Package.Reorderable (ids : IdRanges) (packages : List Package) : Prop where
  /-- No two items have one key. -/
  itemKeys : Offer.DistinctKeys (packages.flatMap Content.items.offers)
  /-- No two recipes have one key. -/
  recipeKeys : Offer.DistinctKeys (packages.flatMap Content.recipes.offers)
  /-- No two quests have one key. -/
  questKeys : Offer.DistinctKeys (packages.flatMap Content.quests.offers)
  /-- Items are no patches and start from the host's items. -/
  items : ∀ package ∈ packages, ∀ item ∈ package.items, item.OnHost ids
  /-- Recipes mention the host's items only by numbers, and start from the host's recipes. -/
  recipes : ∀ package ∈ packages, ∀ recipe ∈ package.recipes, recipe.OnHost ids
  /-- Quests mention the host's items only by numbers. -/
  quests : ∀ package ∈ packages, ∀ quest ∈ package.quests, quest.OnHost ids

/-- Whether packages may be reordered does not depend on their order. -/
theorem Package.Reorderable.of_perm {ids : IdRanges} {packages reordered : List Package}
    (reorderable : Reorderable ids packages) (perm : packages.Perm reordered) :
    Reorderable ids reordered where
  itemKeys := reorderable.itemKeys.of_perm (perm.flatMap_right _)
  recipeKeys := reorderable.recipeKeys.of_perm (perm.flatMap_right _)
  questKeys := reorderable.questKeys.of_perm (perm.flatMap_right _)
  items package member := reorderable.items package (perm.mem_iff.2 member)
  recipes package member := reorderable.recipes package (perm.mem_iff.2 member)
  quests package member := reorderable.quests package (perm.mem_iff.2 member)

/-- Tables that the host has filled and into which nothing was injected. -/
structure Tables.Prepared (ids : IdRanges) (tables : Tables) : Prop where
  /-- Every handle is of a list that was made. -/
  grounded : tables.Grounded
  /-- The item table is ready. -/
  itemsReady : tables.items.isReady = true
  /-- So is the recipe table. -/
  recipesReady : tables.recipes.isReady = true
  /-- All items have numbers of the host. -/
  itemIds : ∀ id ∈ tables.items.ids, id < ids.itemBase
  /-- So have all recipes. -/
  recipeIds : ∀ id ∈ tables.recipes.ids, id < ids.recipeBase
  /-- Some recipe makes an item. -/
  template : ∃ id record, tables.recipes.get? id = some record ∧ record.isItemRecipe = true

/-- The first recipe that makes an item is the host's. -/
theorem Tables.Prepared.first {ids : IdRanges} {tables : Tables} (prepared : tables.Prepared ids) :
    ∃ first, tables.recipes.firstItemRecipe? = some first ∧ first.1 < ids.recipeBase := by
  cases found : tables.recipes.firstItemRecipe? with
  | none =>
    obtain ⟨id, record, there, isItem⟩ := prepared.template
    have member := (IdMap.mem_entries_iff tables.recipes.records id record).2 there
    exact absurd isItem (List.find?_eq_none.1 found _ member)
  | some first =>
    have member := List.mem_of_find?_eq_some found
    exact ⟨first, rfl, prepared.recipeIds first.1 (List.mem_map_of_mem member)⟩

/-! ## Registering -/

/-- The engine after packages were registered, and nothing else happened. -/
def Engine.loaded (ids : IdRanges) (packages : List Package) : Engine :=
  (empty ids).registerAll packages

/-- The engine numbers from the bases and has not injected anything. -/
theorem Engine.loaded_frame (ids : IdRanges) (packages : List Package) :
    (loaded ids packages).ids = ids ∧ (loaded ids packages).marks = .empty ∧
      (loaded ids packages).injected = false :=
  registerAll_frame (empty ids) packages

/-- So its first injection runs. -/
theorem Engine.loaded_runs (ids : IdRanges) (packages : List Package) (tables : Tables) :
    ¬((loaded ids packages).injected = true ∧
      (loaded ids packages).needsInjection tables = false) := by
  rw [(loaded_frame ids packages).2.2]
  exact fun injected => Bool.false_ne_true injected.1

/-- Entries that make records have numbers of their own. -/
theorem Registry.Indexed.nodup_ids {δ : Type} [Definition δ] {registry : Registry δ}
    (indexed : registry.Indexed) (makes : ∀ entry ∈ registry.entries, entry.isPatch = false) :
    (registry.entries.map Entry.id).Nodup := by
  refine List.Nodup.map_on (fun left leftMember right rightMember same => ?_)
    (List.Nodup.of_map Entry.key indexed.nodup_keys)
  exact indexed.eq_of_id_eq leftMember rightMember (makes left leftMember)
    (makes right rightMember) same

namespace Content

variable {δ : Type} [Definition δ] (content : Content δ) (ids : IdRanges)
  {packages reordered : List Package}

/-- The registry holds what the definitions of the packages came to. -/
theorem tallied_loaded (packages : List Package) :
    (content.registry (.loaded ids packages)).Tallied (content.base ids)
      (packages.flatMap content.offers) := by
  rw [Engine.loaded, content.registry_registerAll, content.starts]
  exact Registry.tallied_offerAll _ _

/-- Every entry is of a definition that a package declares. -/
theorem declared_of_loaded {entry : Entry δ}
    (member : entry ∈ (content.registry (.loaded ids packages)).entries) :
    ∃ package ∈ packages, entry.definition ∈ content.declared package := by
  obtain ⟨earlier, offer, later, split, _, _, _, rfl⟩ :=
    (content.tallied_loaded ids packages).mem_iff.1 member
  have offered : offer ∈ packages.flatMap content.offers := by
    rw [split]
    exact List.mem_append_right earlier List.mem_cons_self
  obtain ⟨package, isPackage, declares⟩ := List.mem_flatMap.1 offered
  obtain ⟨definition, isDeclared, rfl⟩ := List.mem_map.1 declares
  exact ⟨package, isPackage, isDeclared⟩

/-- In another order the registry has the same definitions under other numbers. -/
theorem renumbers_loaded (perm : packages.Perm reordered)
    (distinct : Offer.DistinctKeys (packages.flatMap content.offers)) :
    (content.registry (.loaded ids packages)).Renumbers
      (content.registry (.loaded ids reordered)) := by
  rw [Engine.loaded, Engine.loaded, content.registry_registerAll, content.registry_registerAll,
    content.starts]
  exact Registry.renumbers_of_perm _ (perm.flatMap_right _) distinct

end Content

/-- Whether the counters stay in range does not depend on the order of packages. -/
theorem Engine.loaded_inRange_of_perm {ids : IdRanges} {packages reordered : List Package}
    (inRange : (loaded ids packages).InRange) (perm : packages.Perm reordered) :
    (loaded ids reordered).InRange := by
  have items := (Content.items.tallied_loaded ids packages).inRange_iff.1 inRange.items
  have recipes := (Content.recipes.tallied_loaded ids packages).inRange_iff.1 inRange.recipes
  rw [(perm.flatMap_right Content.items.offers).countP_eq] at items
  rw [(perm.flatMap_right Content.recipes.offers).countP_eq] at recipes
  exact ⟨(Content.items.tallied_loaded ids reordered).inRange_iff.2 items,
    (Content.recipes.tallied_loaded ids reordered).inRange_iff.2 recipes⟩

/-- While a counter is in range, the numbers it gave are from the base on. -/
theorem Content.own_of_loaded {δ : Type} [Definition δ] (content : Content δ) {ids : IdRanges}
    {packages : List Package} (inRange : (content.registry (.loaded ids packages)).InRange)
    {entry : Entry δ} (member : entry ∈ (content.registry (.loaded ids packages)).entries)
    (makes : entry.isPatch = false) : content.base ids ≤ entry.id := by
  have tallied := content.tallied_loaded ids packages
  rw [← tallied.counts]
  exact (tallied.sound.bounds inRange member makes).1

section Loaded

variable {ids : IdRanges} {packages reordered : List Package} {tables : Tables}

/-- Every item of reorderable packages starts from the host's. -/
theorem Package.Reorderable.item_onHost (reorderable : Reorderable ids packages)
    {entry : Entry ItemDefinition} (member : entry ∈ (Engine.loaded ids packages).items.entries) :
    entry.definition.OnHost ids := by
  obtain ⟨package, isPackage, declared⟩ := Content.items.declared_of_loaded ids member
  exact reorderable.items package isPackage entry.definition declared

/-- So does every recipe. -/
theorem Package.Reorderable.recipe_onHost (reorderable : Reorderable ids packages)
    {entry : Entry RecipeDefinition}
    (member : entry ∈ (Engine.loaded ids packages).recipes.entries) :
    entry.definition.OnHost ids := by
  obtain ⟨package, isPackage, declared⟩ := Content.recipes.declared_of_loaded ids member
  exact reorderable.recipes package isPackage entry.definition declared

/-- The renaming of items from one order of packages to another. -/
def renameItems (ids : IdRanges) (packages reordered : List Package) : Nat → Nat :=
  (Engine.loaded ids packages).items.renumber (Engine.loaded ids reordered).items

/-- A reference to an item resolves to the same item in any order, under its number there. -/
theorem Package.Reorderable.resolves (reorderable : Reorderable ids packages)
    (inRange : (Engine.loaded ids packages).InRange) (perm : packages.Perm reordered)
    (package : String) (reference : ItemRef) (below : reference.Below ids.itemBase) :
    (Engine.loaded ids reordered).items.resolveItem? package reference =
      ((Engine.loaded ids packages).items.resolveItem? package reference).map
        (renameItems ids packages reordered) := by
  have tallied := Content.items.tallied_loaded ids packages
  have renumbers := Content.items.renumbers_loaded ids perm reorderable.itemKeys
  refine renumbers.resolveItem? tallied.sound inRange.items (fun entry member => ?_) package ?_
  · exact (reorderable.item_onHost member).isPatch
  · rw [tallied.counts]
    exact below

/-! ## Injecting -/

/-- The injection of packages, as the first one into tables. -/
def Engine.loading (ids : IdRanges) (packages : List Package) (tables : Tables) : Injection :=
  (loaded ids packages).injectContent tables

/-- An injection of packages comes to an item pass and a recipe pass after it, both as it was to be
expected. -/
structure Loads (ids : IdRanges) (packages : List Package) (tables : Tables)
    (items : Pass ItemState ItemDefinition) (recipes : Pass Tables RecipeDefinition) : Prop where
  /-- The report is that of the two passes. -/
  report : (Engine.loading ids packages tables).report = items.report.merge recipes.report
  /-- The failures are those of the two passes. -/
  failures : (Engine.loading ids packages tables).failures = items.failures ++ recipes.failures
  /-- The items that wait are those of the first pass. -/
  marks : (Engine.loading ids packages tables).engine.marks = items.state.marks
  /-- The tables are those after the second pass. -/
  after : (Engine.loading ids packages tables).tables = recipes.state
  /-- The first pass leaves the recipes alone. -/
  between : items.state.tables.recipes = tables.recipes
  /-- The first pass comes to what is expected of the items. -/
  itemsDone : (itemProspect ids tables).Fulfilled (Engine.loaded ids packages).items.entries
    ⟨tables, .empty⟩ items
  /-- The second pass comes to what is expected of the recipes. -/
  recipesDone : (recipeProspect ids (Engine.loaded ids packages).items items.state.tables).Fulfilled
    (Engine.loaded ids packages).recipes.entries items.state.tables recipes

/-- The item pass comes to what is expected of the items. -/
theorem Package.Reorderable.items_fulfilled (reorderable : Reorderable ids packages)
    (inRange : (Engine.loaded ids packages).InRange) (prepared : tables.Prepared ids) :
    (itemProspect ids tables).Fulfilled (Engine.loaded ids packages).items.entries
      ⟨tables, .empty⟩ ((Engine.loaded ids packages).itemPass tables) := by
  obtain ⟨sameIds, noMarks, _⟩ := Engine.loaded_frame ids packages
  have tallied := Content.items.tallied_loaded ids packages
  have own {entry : Entry ItemDefinition}
      (member : entry ∈ (Engine.loaded ids packages).items.entries) : ids.itemBase ≤ entry.id :=
    Content.items.own_of_loaded inRange.items member (reorderable.item_onHost member).isPatch
  rw [Engine.itemPass, sameIds, noMarks]
  refine Prospect.fulfilled (fun entry member => ?_) ?_ (fun entry member => ?_) ?_
  · exact itemProspect_holds prepared.grounded (reorderable.item_onHost member) (own member)
  · exact tallied.indexed.nodup_ids fun entry member => (reorderable.item_onHost member).isPatch
  · exact ItemState.shown_of_absent (Table.absent_of_ids_below prepared.itemIds (own member))
  · exact ⟨fun _ _ => rfl, .refl _, prepared.grounded⟩

/-- After an item pass as expected, the recipe pass comes to what is expected of the recipes. -/
theorem Package.Reorderable.recipes_fulfilled (reorderable : Reorderable ids packages)
    (inRange : (Engine.loaded ids packages).InRange) (prepared : tables.Prepared ids)
    {between : Tables} (grounded : between.Grounded) (recipes : between.recipes = tables.recipes) :
    (recipeProspect ids (Engine.loaded ids packages).items between).Fulfilled
      (Engine.loaded ids packages).recipes.entries between
      (((Engine.loaded ids packages).afterItems tables).recipePass between) := by
  let engine := Engine.loaded ids packages
  have tallied := Content.recipes.tallied_loaded ids packages
  have own {entry : Entry RecipeDefinition} (member : entry ∈ engine.recipes.entries) :
      ids.recipeBase ≤ entry.id := Content.recipes.own_of_loaded inRange.recipes member rfl
  -- The items of the pass differ from those registered in the records last written only.
  have content := (Engine.sameContent_afterItems engine tables).items
  have steps : recipeStep engine.ids (engine.afterItems tables).items =
      recipeStep ids engine.items := by
    rw [recipeStep_congr (Registry.resolveItem?_of_forget_eq content),
      (Engine.loaded_frame ids packages).1]
  have pass : (engine.afterItems tables).recipePass between =
      runPass (recipeStep ids engine.items) engine.recipes.entries between := by
    rw [← steps]
    rfl
  obtain ⟨first, found, below⟩ := prepared.first
  rw [← recipes] at found
  rw [pass]
  refine Prospect.fulfilled (fun entry member => ?_) ?_ (fun entry member => ?_) ?_
  · exact recipeProspect_holds found below (reorderable.recipe_onHost member) (own member)
  · exact tallied.indexed.nodup_ids fun _ _ => rfl
  · have absent : between.recipes.contains entry.id = false := by
      rw [recipes]
      exact Table.absent_of_ids_below prepared.recipeIds (own member)
    rw [← Tables.contains_recipeView, ← IdMap.get?_eq_none_iff] at absent
    exact absent
  · exact ⟨fun _ _ => rfl, rfl, rfl, grounded⟩

/-- Injecting reorderable packages into prepared tables comes to what is expected. -/
theorem Package.Reorderable.loads (reorderable : Reorderable ids packages)
    (inRange : (Engine.loaded ids packages).InRange) (prepared : tables.Prepared ids) :
    ∃ items recipes, Loads ids packages tables items recipes := by
  let engine := Engine.loaded ids packages
  have runs := Engine.loaded_runs ids packages tables
  have full : Engine.loading ids packages tables = engine.fullInjection tables :=
    Engine.injectContent_of_ready runs prepared.itemsReady prepared.recipesReady
  have items := reorderable.items_fulfilled inRange prepared
  have between := engine.itemPass_recipes tables
  have recipes := reorderable.recipes_fulfilled inRange prepared items.fits.grounded between
  exact ⟨_, _, by rw [full]; rfl, by rw [full]; rfl, by rw [full]; rfl, by rw [full]; rfl, between,
    items, recipes⟩

/-! ## Two orders -/

/-- What is shown of an item after an injection is what was expected of it. -/
theorem Loads.shown {items : Pass ItemState ItemDefinition} {recipes : Pass Tables RecipeDefinition}
    (loads : Loads ids packages tables items recipes) {entry : Entry ItemDefinition}
    (member : entry ∈ (Engine.loaded ids packages).items.entries) :
    ItemState.shown ⟨(Engine.loading ids packages tables).tables,
      (Engine.loading ids packages tables).engine.marks⟩ entry.id =
      (itemProspect ids tables).shown entry := by
  have view : recipes.state.itemView = items.state.tables.itemView := loads.recipesDone.fits.items
  rw [← loads.itemsDone.own entry member, loads.after, loads.marks, ItemState.shown, view]
  rfl

/-- The graph of a quest after an injection is made from the items registered. -/
theorem Engine.questGraph?_loading (prepared : tables.Prepared ids) (quest : String) :
    ((loading ids packages tables).engine.questGraph? quest).1 =
      ((loaded ids packages).quests.registry.byKey? quest).map fun entry =>
        entry.graph (loaded ids packages).items := by
  let engine := loaded ids packages
  let later := (loading ids packages tables).engine
  have runs := loaded_runs ids packages tables
  have sound : engine.quests.Sound (fun _ _ => True) fun _ => True :=
    registerAll_quests (QuestCatalog.sound_empty _) fun _ _ _ _ _ => trivial
  have registry : later.quests.registry = engine.quests.registry :=
    (injectContent_quests sound tables fun _ _ => trivial).2
  have resolves :=
    Registry.resolveItem?_of_forget_eq (sameContent_injectContent engine tables).items
  obtain ⟨absent, present⟩ :=
    (injectContent_fresh sound runs prepared.itemsReady).graph?_answer later.items quest
  change (later.quests.graph? quest later.items).1 = _
  cases found : engine.quests.registry.byKey? quest with
  | none => exact absent.2 ((congrArg (·.byKey? quest) registry).trans found)
  | some entry =>
    obtain ⟨items, origin, made⟩ := present entry ((congrArg (·.byKey? quest) registry).trans found)
    have same : items = later.items := origin.elim id id
    -- The items differ from those registered in the records last written, which no wait looks at.
    refine made.trans (congrArg some ?_)
    rw [same]
    exact (entry.graph_eq_iff _ _).2 fun _ _ _ _ _ _ _ _ => resolves _ _

/-- Two items came to the same, their numbers and labels apart. -/
structure Engine.Injection.ItemsAlike (first second : Injection) (id id' : Nat) : Prop where
  /-- Both are injected, or none is. -/
  injected : first.tables.items.contains id = second.tables.items.contains id'
  /-- Both wait for the icon of the same item, or none waits. -/
  deferred : first.engine.marks.pendingIcons.get? id = second.engine.marks.pendingIcons.get? id'
  /-- Their records show the same apart from their labels. -/
  view : (first.tables.itemView.get? id).map ItemView.unlabelled =
    (second.tables.itemView.get? id').map ItemView.unlabelled

/-- Two recipes came to the same, their numbers, places and the numbers of items apart. -/
structure Engine.Injection.RecipesAlike (rename : Nat → Nat) (first second : Injection)
    (id id' : Nat) : Prop where
  /-- Both are injected, or none is. -/
  injected : first.tables.recipes.contains id = second.tables.recipes.contains id'
  /-- Their records show the same, with all items renamed, apart from their numbers and places. -/
  view : (first.tables.recipeView.get? id).map (fun view => view.unlabelled.renumber rename) =
    (second.tables.recipeView.get? id').map RecipeView.unlabelled

/-- Two engines have the same definitions under other numbers, and what two injections make of them
is the same but for the numbers. -/
structure Engine.LoadsAlike (ids : IdRanges) (left right : Engine) (first second : Injection) :
    Prop where
  /-- As many definitions came to each outcome. -/
  report : first.report = second.report
  /-- The same definitions failed, for the same reasons. -/
  failures : first.failures.Perm second.failures
  /-- The items are the same but for their numbers. -/
  items : left.items.Renumbers right.items
  /-- So are the recipes. -/
  recipes : left.recipes.Renumbers right.recipes
  /-- So are the quests. -/
  quests : left.quests.registry.Renumbers right.quests.registry
  /-- The renaming of items leaves the host's numbers alone. -/
  hostItems : ∀ id < ids.itemBase, left.items.renumber right.items id = id
  /-- It leads from the number of an item to the number under the same key, and both came to the
  same. -/
  item : ∀ key entry twin, left.items.byKey? key = some entry →
    right.items.byKey? key = some twin →
    left.items.renumber right.items entry.id = twin.id ∧ first.ItemsAlike second entry.id twin.id
  /-- Recipes under the same key came to the same. -/
  recipe : ∀ key entry twin, left.recipes.byKey? key = some entry →
    right.recipes.byKey? key = some twin →
    first.RecipesAlike (left.items.renumber right.items) second entry.id twin.id
  /-- The graph of every quest is the same, with the items it waits for renamed. -/
  graph : ∀ quest, ((first.engine.questGraph? quest).1).map
      (QuestGraph.renumber (left.items.renumber right.items)) =
    (second.engine.questGraph? quest).1

section Orders

variable {items items' : Pass ItemState ItemDefinition}
  {recipes recipes' : Pass Tables RecipeDefinition}

/-- Items under one key came to the same in both orders. -/
theorem Loads.itemsAlike (first : Loads ids packages tables items recipes)
    (second : Loads ids reordered tables items' recipes') {entry twin : Entry ItemDefinition}
    (here : entry ∈ (Engine.loaded ids packages).items.entries)
    (there : twin ∈ (Engine.loaded ids reordered).items.entries)
    (same : entry.unnumbered = twin.unnumbered) :
    (Engine.loading ids packages tables).ItemsAlike (Engine.loading ids reordered tables)
      entry.id twin.id := by
  have plans : ((itemProspect ids tables).plan entry).map _ = _ := itemProspect_alike same
  have expected := (Prospect.alike plans rfl).2
  rw [← first.shown here, ← second.shown there] at expected
  have view := congrArg ItemShown.view expected
  refine ⟨?_, congrArg ItemShown.awaited expected, view⟩
  have present := congrArg Option.isSome view
  rw [← Tables.contains_itemView, ← Tables.contains_itemView]
  simpa [ItemShown.unlabelled, ItemState.shown, IdMap.contains] using present

/-- Recipes under one key came to the same in both orders. -/
theorem Loads.recipesAlike (first : Loads ids packages tables items recipes)
    (second : Loads ids reordered tables items' recipes')
    (reorderable : Package.Reorderable ids packages)
    (inRange : (Engine.loaded ids packages).InRange) (perm : packages.Perm reordered)
    {entry twin : Entry RecipeDefinition}
    (here : entry ∈ (Engine.loaded ids packages).recipes.entries)
    (there : twin ∈ (Engine.loaded ids reordered).recipes.entries)
    (same : entry.unnumbered = twin.unnumbered) :
    (Engine.loading ids packages tables).RecipesAlike (renameItems ids packages reordered)
      (Engine.loading ids reordered tables) entry.id twin.id := by
  have recipes := first.between.trans second.between.symm
  have expected := (Prospect.alike (recipeProspect_alike same (reorderable.resolves inRange perm)
    (reorderable.recipe_onHost here) recipes) rfl).2
  rw [← first.recipesDone.own entry here, ← second.recipesDone.own twin there, ← first.after,
    ← second.after] at expected
  refine ⟨?_, expected.symm⟩
  have present := congrArg Option.isSome expected.symm
  rw [← Tables.contains_recipeView, ← Tables.contains_recipeView]
  simpa [recipeProspect, IdMap.contains] using present

/-- The item passes of both orders report the same and list the same failures. -/
theorem Loads.items_report (first : Loads ids packages tables items recipes)
    (second : Loads ids reordered tables items' recipes')
    (reorderable : Package.Reorderable ids packages) (perm : packages.Perm reordered) :
    items.report = items'.report ∧ items.failures.Perm items'.failures := by
  have renumbers := Content.items.renumbers_loaded ids perm reorderable.itemKeys
  exact first.itemsDone.report_eq second.itemsDone renumbers.entries
    (fun entry _ => itemProspect_outcome ids tables entry)
    fun entry _ => itemProspect_outcome ids tables entry

/-- The recipe passes of both orders report the same and list the same failures. -/
theorem Loads.recipes_report (first : Loads ids packages tables items recipes)
    (second : Loads ids reordered tables items' recipes')
    (reorderable : Package.Reorderable ids packages)
    (inRange : (Engine.loaded ids packages).InRange) (perm : packages.Perm reordered) :
    recipes.report = recipes'.report ∧ recipes.failures.Perm recipes'.failures := by
  have between := first.between.trans second.between.symm
  have same (package : String) (reference : ItemRef) (_ : reference.Below ids.itemBase) :
      (Engine.loaded ids reordered).items.resolveItem? package reference =
        ((Engine.loaded ids reordered).items.resolveItem? package reference).map id :=
    Option.map_id_apply.symm
  have renumbers := Content.recipes.renumbers_loaded ids perm reorderable.recipeKeys
  refine first.recipesDone.report_eq second.recipesDone renumbers.entries
    (fun entry member => ?_) fun entry member => ?_
  · exact recipeProspect_outcome (reorderable.resolves inRange perm)
      (reorderable.recipe_onHost member) between
  · exact recipeProspect_outcome same ((reorderable.of_perm perm).recipe_onHost member) rfl

end Orders

/-- The graph of a quest is the same in any order, with the items it waits for renamed. -/
theorem Package.Reorderable.graph (reorderable : Reorderable ids packages)
    (inRange : (Engine.loaded ids packages).InRange) (perm : packages.Perm reordered)
    (prepared : tables.Prepared ids) (quest : String) :
    (((Engine.loading ids packages tables).engine.questGraph? quest).1).map
        (QuestGraph.renumber (renameItems ids packages reordered)) =
      ((Engine.loading ids reordered tables).engine.questGraph? quest).1 := by
  have renumbers := Content.quests.renumbers_loaded ids perm reorderable.questKeys
  have same := renumbers.byKey? quest
  rw [Engine.questGraph?_loading prepared, Engine.questGraph?_loading prepared]
  change (((Content.quests.registry (.loaded ids packages)).byKey? quest).map _).map _ =
    ((Content.quests.registry (.loaded ids reordered)).byKey? quest).map _
  cases here : (Content.quests.registry (.loaded ids packages)).byKey? quest with
  | none =>
    rw [here, Option.map_none, eq_comm, Option.map_eq_none_iff] at same
    rw [same]
    rfl
  | some entry =>
    rw [here, Option.map_some, eq_comm, Option.map_eq_some_iff] at same
    obtain ⟨twin, there, same⟩ := same
    obtain ⟨package, isPackage, declared⟩ :=
      Content.quests.declared_of_loaded ids (renumbers.twins_of_byKey? here there).1
    have onHost := reorderable.quests package isPackage entry.definition declared
    have graph := Entry.graph_renumber same.symm fun stage isStage wait waits reference named =>
      reorderable.resolves inRange perm entry.package.id reference
        (onHost stage isStage wait waits reference named)
    rw [there]
    exact congrArg some graph.symm

end Loaded

/-- A package with butter and with a cheese whose base is missing. -/
def dairy : Package where
  info := .inMemory "dairy"
  items := [{ id := "cheese", baseItem := 900 }, { id := "butter" }]

/-- A quest that waits for butter. -/
def shopping : QuestDefinition :=
  { id := "shopping"
    stages := [{ id := "buy", kind := "wait",
                 wait := some { kind := "item", item := some (.name "butter") } }] }

/-- A package with that quest, a cake that borrows the icon of an item without one, and a recipe
that makes it from butter. -/
def bakery : Package where
  info := .inMemory "bakery"
  items := [{ id := "cake", referenceItemId := 5 }]
  recipes := [{ id := "bake", result := .name "cake", ingredients := [{ item := .name "butter" }] }]
  quests := [shopping]

/-- A package with one jar. -/
def hamper (name : String) : Package where
  info := .inMemory name
  items := [{ id := "jar", price := 7 }]

/-- Where numbers begin at the end of the numbers. -/
def hamperIds : IdRanges := { itemBase := 4294967295 }

end Modpack
