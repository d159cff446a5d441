import Modpack.Proofs.FreshRecipes
import Modpack.Proofs.Templates

/-!
# Nothing of the template is left

A new recipe starts from a copy of a template: the recipe it declares, or the first in the table
that makes an item, which an earlier entry may have put there. Every plain field of the copy is
written and both of its lists are replaced before anything is put into them. So the record shows
what the definition, its number and the resolved references say, whatever table it was made in, and
of all that was there before nothing shows a change. Its place is counted in 64 bits.
-/
namespace Modpack

/-! ## What a new recipe depends on -/

namespace Entry

/-- A table has a recipe to start from: the declared one, or, where none is declared, one that makes
an item. -/
def HasTemplate (entry : Entry RecipeDefinition) (recipes : Table RecipeRecord) : Prop :=
  (∀ base, entry.definition.baseRecipe = some base → recipes.contains base = true) ∧
    (entry.definition.baseRecipe = none →
      ∃ id record, recipes.get? id = some record ∧ record.isItemRecipe = true)

/-- What a recipe takes, in the declared order: of each ingredient the item it refers to, and as
many of it as it says. -/
def Takes (items : Registry ItemDefinition) (entry : Entry RecipeDefinition)
    (taken : List ListEntry) : Prop :=
  List.Forall₂ (fun (ingredient : IngredientDefinition) (listed : ListEntry) =>
      ∃ item, items.resolveItem? entry.package.id ingredient.item = some item ∧
        listed = .ingredient item ingredient.count)
    entry.definition.ingredients taken

/-- What a new recipe shows, given the item that it makes and what it takes. Its place is one for
every number from the base on, in 64 bits. -/
def recipeShown (ids : IdRanges) (entry : Entry RecipeDefinition) (result : Nat)
    (taken : List ListEntry) : RecipeView where
  plain :=
    { id := entry.id
      kind := "item"
      index := Whole.wrapWide (ids.recipeIndexBase + entry.id - ids.recipeBase)
      requiredSkill := entry.definition.skillRequired
      active := true
      difficulty := 0
      title := if entry.definition.name = "" then "Unknown Recipe"
        else entry.resolve entry.definition.name
      resultItem := result
      resultCount := entry.definition.resultCount
      bench := entry.definition.benchType.name
      requirePrimary := ⟨0⟩
      requireSecondary := ⟨0⟩ }
  contents
    | .requirePrimary => taken
    | .requireSecondary => []

end Entry

section Plan

variable {ids : IdRanges} {items : Registry ItemDefinition} {recipes : Table RecipeRecord}
  {entry : Entry RecipeDefinition}

/-- A template is found where there is one. -/
theorem templateFor_of_hasTemplate (offers : entry.HasTemplate recipes) :
    ∃ template, templateFor recipes entry = .ok template := by
  rcases templateFor_cases recipes entry with ⟨_, found⟩ | ⟨lacking, _⟩
  · exact found
  · rcases lacking with ⟨base, declared, absent⟩ | ⟨undeclared, never⟩
    · rw [offers.1 base declared] at absent
      cases absent
    · obtain ⟨id, record, there, makesItem⟩ := offers.2 undeclared
      rw [never id record there] at makesItem
      cases makesItem

/-- The results of a list that is gone through without a failure stand beside its members. -/
theorem forall₂_of_mapM_ok {ε α β : Type} {work : α → Except ε β} {inputs : List α}
    {results : List β} (ok : inputs.mapM work = .ok results) :
    List.Forall₂ (fun input result => work input = .ok result) inputs results := by
  induction inputs generalizing results with
  | nil =>
    obtain rfl := Except.ok.inj ok
    exact .nil
  | cons input rest ih =>
    rw [List.mapM_cons] at ok
    cases first : work input with
    | error cause =>
      rw [first] at ok
      cases ok
    | ok result =>
      cases later : rest.mapM work with
      | error cause =>
        rw [first, later] at ok
        cases ok
      | ok others =>
        rw [first, later] at ok
        obtain rfl := Except.ok.inj ok
        exact .cons first (ih later)

/-- Ingredients are resolved to what the recipe takes. -/
theorem takes_of_resolveIngredients {taken : List ListEntry}
    (resolved : resolveIngredients items entry = .ok taken) : entry.Takes items taken := by
  refine (forall₂_of_mapM_ok resolved).imp fun ingredient listed found => ?_
  cases named : items.resolveItem? entry.package.id ingredient.item with
  | none =>
    rw [named] at found
    cases found
  | some item =>
    rw [named] at found
    exact ⟨item, rfl, (Except.ok.inj found).symm⟩

/-- A plan is made where all references are resolved and there is something to start from; it is for
the number of its entry, with every plain field of the template written. -/
theorem planRecipe_eq_ok_iff {plan : RecipePlan} :
    planRecipe ids items recipes entry = .ok plan ↔
      ∃ result taken template,
        items.resolveItem? entry.package.id entry.definition.result = some result ∧
        resolveIngredients items entry = .ok taken ∧ templateFor recipes entry = .ok template ∧
        plan = ⟨entry.id, recipeFrom ids entry result template, taken⟩ := by
  rw [planRecipe]
  cases items.resolveItem? entry.package.id entry.definition.result with
  | none => simp
  | some result =>
    cases resolveIngredients items entry with
    | error cause => simp [Bind.bind, Except.bind]
    | ok taken =>
      cases templateFor recipes entry with
      | error cause => simp [Bind.bind, Except.bind]
      | ok template =>
        simp only [Bind.bind, Except.bind, setAll_recipeWrites, Except.ok.injEq]
        constructor
        · rintro rfl
          exact ⟨result, taken, template, rfl, rfl, rfl, rfl⟩
        · rintro ⟨_, _, _, ⟨⟩, rfl, rfl, rfl⟩
          rfl

/-- The plan of a recipe shows nothing of the template. -/
theorem shown_of_planRecipe {plan : RecipePlan}
    (planned : planRecipe ids items recipes entry = .ok plan) :
    ∃ result taken, items.resolveItem? entry.package.id entry.definition.result = some result ∧
      resolveIngredients items entry = .ok taken ∧
      plan.shown = entry.recipeShown ids result taken := by
  obtain ⟨result, taken, template, made, resolved, _, rfl⟩ := planRecipe_eq_ok_iff.1 planned
  exact ⟨result, taken, made, resolved, rfl⟩

end Plan

/-! ## What a new recipe changes -/

/-- Tables gained one recipe, which shows what it should. Its lists are new and apart from each
other. The records that were there are the same, their lists hold what they held, and the other
tables are as they were. -/
structure Tables.GainsRecipe (before : Tables) (id : Nat) (view : RecipeView) (after : Tables) :
    Prop where
  /-- The recipes show what they showed, and under the number what is given. -/
  shows : after.recipeView = before.recipeView.insert id view
  /-- The lists of the new record are its own. -/
  own : ∃ record, after.recipes.get? id = some record ∧
    record.requirePrimary ≠ record.requireSecondary ∧
    ∀ list, ¬ before.lists.Made (record.handle list)
  /-- The other records are the same and their lists hold what they held. -/
  kept : ∀ other record, before.recipes.get? other = some record →
    after.recipes.get? other = some record ∧
      ∀ list, after.lists.read (record.handle list) = before.lists.read (record.handle list)
  /-- The items show what they showed. -/
  items : after.items = before.items ∧ after.itemView = before.itemView
  /-- The display strings are as they were. -/
  strings : after.strings = before.strings

/-- Carrying out a plan gains one recipe. -/
theorem gainsRecipe_of_carryOut {tables : Tables} (grounded : tables.Grounded) {plan : RecipePlan}
    (absent : tables.recipes.contains plan.id = false) :
    tables.GainsRecipe plan.id plan.shown (plan.carryOut tables) := by
  have extended := plan.extendedBy_finished tables.lists
  rw [RecipePlan.carryOut_eq]
  constructor
  case shows => rw [grounded.recipeView_putRecipe extended, plan.view_finished]
  case own =>
    have secondary : ¬ (plan.filled tables.lists).Made (plan.filled tables.lists).next :=
      ListStore.not_made_next _
    refine ⟨(plan.finished tables.lists).1, ?_, fun same => ?_, fun list => ?_⟩
    · exact (Table.get?_set _ _ _ _).trans (if_pos rfl)
    · change tables.lists.next = (plan.filled tables.lists).next at same
      rw [← same] at secondary
      exact secondary (plan.made_filled tables.lists)
    · cases list with
      | requirePrimary => exact ListStore.not_made_next tables.lists
      | requireSecondary =>
        exact fun old => secondary (plan.extendedBy_filled tables.lists _ old).1
  case kept =>
    intro other record found
    have apart : plan.id ≠ other := Table.ne_of_get?_of_absent found absent
    refine ⟨?_, fun list => (extended _ (grounded.recipes other record found list)).2⟩
    exact ((Table.get?_set _ _ _ _).trans (if_neg apart)).trans found
  case items => exact ⟨rfl, grounded.itemView_putRecipe extended _ _⟩
  case strings => rfl

section Step

variable {ids : IdRanges} {items : Registry ItemDefinition} {entry : Entry RecipeDefinition}
  {tables : Tables}

/-- Where the plan of an absent recipe is made, the recipe is injected and shows what it plans. -/
theorem recipeStep_of_planRecipe (grounded : tables.Grounded)
    (absent : tables.recipes.contains entry.id = false) {plan : RecipePlan}
    (planned : planRecipe ids items tables.recipes entry = .ok plan) :
    ∃ after, recipeStep ids items entry tables = .ok ⟨.injected, entry.id, after⟩ ∧
      tables.GainsRecipe entry.id plan.shown after := by
  have id : plan.id = entry.id := planRecipe_id planned
  refine ⟨plan.carryOut tables, ?_, ?_⟩
  · rw [recipeStep, if_neg (Bool.eq_false_iff.1 absent), planned]
    rfl
  · rw [← id] at absent ⊢
    exact gainsRecipe_of_carryOut grounded absent

/-- Where its references are resolved, a recipe that is absent and has something to start from is
injected, and shows nothing of the template. -/
theorem recipeStep_of_resolved (ids : IdRanges) {result : Nat} {taken : List ListEntry}
    (made : items.resolveItem? entry.package.id entry.definition.result = some result)
    (resolved : resolveIngredients items entry = .ok taken) (grounded : tables.Grounded)
    (absent : tables.recipes.contains entry.id = false)
    (offers : entry.HasTemplate tables.recipes) :
    ∃ after, recipeStep ids items entry tables = .ok ⟨.injected, entry.id, after⟩ ∧
      tables.GainsRecipe entry.id (entry.recipeShown ids result taken) after := by
  obtain ⟨template, started⟩ := templateFor_of_hasTemplate offers
  have planned : planRecipe ids items tables.recipes entry =
      .ok ⟨entry.id, recipeFrom ids entry result template, taken⟩ :=
    planRecipe_eq_ok_iff.2 ⟨result, taken, template, made, resolved, started, rfl⟩
  exact recipeStep_of_planRecipe grounded absent planned

/-- A recipe that is absent and whose step does not fail has its references resolved. -/
theorem resolved_of_recipeStep (absent : tables.recipes.contains entry.id = false)
    {done : Step Tables} (ok : recipeStep ids items entry tables = .ok done) :
    ∃ result taken, items.resolveItem? entry.package.id entry.definition.result = some result ∧
      resolveIngredients items entry = .ok taken := by
  cases recipeTurn_of_ok ok with
  | present present =>
    rw [absent] at present
    cases present
  | made _ plan planned =>
    obtain ⟨result, taken, made, resolved, _⟩ := shown_of_planRecipe planned
    exact ⟨result, taken, made, resolved⟩

/-- A step keeps what the tables show under the numbers they have. -/
theorem recipeStep_shows (grounded : tables.Grounded) {done : Step Tables}
    (ok : recipeStep ids items entry tables = .ok done) {id : Nat} {view : RecipeView}
    (shown : tables.recipeView.get? id = some view) :
    done.state.recipeView.get? id = some view := by
  cases recipeTurn_of_ok ok with
  | present => exact shown
  | made absent plan planned =>
    have apart : plan.id ≠ id := by
      intro same
      have there : tables.recipeView.contains id = true := by rw [IdMap.contains, shown]; rfl
      rw [Tables.contains_recipeView, ← same, planRecipe_id planned, absent] at there
      cases there
    rw [← planRecipe_id planned] at absent
    rw [(gainsRecipe_of_carryOut grounded absent).shows, IdMap.get?_insert, if_neg apart, shown]

/-- Whatever recipes a pass injects before and after it, and whichever of them it starts from, at
the end of the pass a recipe that was injected shows what its definition says. -/
theorem recipeShown_after_pass {entries : List (Entry RecipeDefinition)}
    (grounded : tables.Grounded) {turn : Turn Tables RecipeDefinition}
    (member : turn ∈ turns (recipeStep ids items) entries tables)
    (injected : turn.outcome? = some .injected) :
    ∃ result taken,
      items.resolveItem? turn.entry.package.id turn.entry.definition.result = some result ∧
      turn.entry.Takes items taken ∧
      (runPass (recipeStep ids items) entries tables).state.recipeView.get? turn.entry.id =
        some (turn.entry.recipeShown ids result taken) := by
  have keeps : ∀ entry ∈ entries, ∀ state done, recipeStep ids items entry state = .ok done →
      state.Grounded → done.state.Grounded :=
    fun _ _ _ _ ok => recipeStep_grounded ok
  have groundedThen := holds_of_mem_turns Tables.Grounded member keeps grounded
  obtain ⟨_, _, _, _, stepped⟩ := mem_turns_iff.1 member
  obtain ⟨entry, state, came⟩ := turn
  change came = recipeStep ids items entry state at stepped
  have told := recipeStep_turn ids items entry state
  rw [← stepped] at told
  cases told with
  | present => cases injected
  | failed => cases injected
  | made absent plan planned =>
    obtain ⟨result, taken, made, resolved, shown⟩ := shown_of_planRecipe planned
    have id : plan.id = entry.id := planRecipe_id planned
    have gains := gainsRecipe_of_carryOut groundedThen (id ▸ absent)
    have shownThen : (plan.carryOut state).recipeView.get? entry.id =
        some (entry.recipeShown ids result taken) := by
      rw [gains.shows, IdMap.get?_insert, if_pos id, shown]
    have groundedAfter : (plan.carryOut state).Grounded :=
      recipeStep_grounded stepped.symm groundedThen
    refine ⟨result, taken, made, takes_of_resolveIngredients resolved, ?_⟩
    exact (runPass_keeps_after
      (fun tables => tables.Grounded ∧ tables.recipeView.get? entry.id = _) member
      (fun _ _ _ _ ok holds =>
        ⟨recipeStep_grounded ok holds.1, recipeStep_shows holds.1 ok holds.2⟩)
      ⟨groundedAfter, shownThen⟩).2

end Step

/-- A recipe without a name that declares no template. -/
def brew : Entry RecipeDefinition where
  key := "brewery:brew"
  id := 51003
  package := .ofManifest { id := "brewery" } "packages/brewery" .empty
  definition :=
    { id := "brew", result := .id 5, resultCount := 2, bench := "Kitchen"
      ingredients := [⟨.id 1, 3⟩, ⟨.id 4, 1⟩] }

/-- The tables of a seeded host with one more recipe that makes an item, before its template. -/
def crowdedTables : Tables :=
  let tables := Host.seeded.tables.addRecipe 7 RecipeRecord.itemKind
  let tables := tables.pushToRecipe 7 .requirePrimary (.ingredient 3 9)
  tables.pushToRecipe 7 .requireSecondary (.ingredient 2 6)

/-- Where places begin at the end of 64 bits. -/
def lastPlaces : IdRanges := { recipeIndexBase := 9223372036854775807 }

end Modpack
