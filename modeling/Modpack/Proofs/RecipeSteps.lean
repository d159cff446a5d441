import Modpack.Injection.Recipes
import Modpack.Proofs.Passes
import Modpack.Proofs.Views

/-!
# What one step of the recipe pass can do

A recipe that is absent is planned and put into the table. Both nested lists of its record are
new, so nothing is pushed into a list of the template, and the record shows only what the plan
wrote and what it takes. Of the items a plan sees only how references are resolved. A step that
fails has written nothing.
-/
namespace Modpack

/-! ## Carrying a plan out -/

namespace RecipePlan

/-- The record that carrying the plan out puts into the table, and the lists with it. -/
def finished (plan : RecipePlan) (store : ListStore) : RecipeRecord × ListStore :=
  let primary := plan.record.detach store .requirePrimary
  primary.1.detach (primary.2.pushAll primary.1.requirePrimary plan.ingredients) .requireSecondary

/-- What the record of a plan shows once the plan was carried out. -/
def shown (plan : RecipePlan) : RecipeView :=
  ⟨plan.record.plain, fun
    | .requirePrimary => plan.ingredients
    | .requireSecondary => []⟩

/-- Carrying a plan out puts one recipe into the tables. -/
theorem carryOut_eq (plan : RecipePlan) (tables : Tables) :
    plan.carryOut tables =
      tables.putRecipe (plan.finished tables.lists).2 plan.id (plan.finished tables.lists).1 := rfl

/-- The store of lists once the primary list is made and filled. -/
def filled (plan : RecipePlan) (store : ListStore) : ListStore :=
  (store.fresh []).pushAll store.next plan.ingredients

/-- Making and filling the primary list leaves every list made before as it was. -/
theorem extendedBy_filled (plan : RecipePlan) (store : ListStore) :
    store.ExtendedBy (plan.filled store) :=
  (ListStore.extendedBy_fresh store []).pushAll (ListStore.not_made_next store) plan.ingredients

/-- The primary list was made. -/
theorem made_filled (plan : RecipePlan) (store : ListStore) :
    (plan.filled store).Made store.next :=
  (ListStore.made_pushAll _ _ _ _).2 (ListStore.made_fresh_next store [])

/-- Carrying a plan out leaves every list made before as it was. -/
theorem extendedBy_finished (plan : RecipePlan) (store : ListStore) :
    store.ExtendedBy (plan.finished store).2 :=
  (plan.extendedBy_filled store).trans (ListStore.extendedBy_fresh (plan.filled store) [])

/-- Every list of the finished record was made. -/
theorem made_finished (plan : RecipePlan) (store : ListStore) (list : RecipeList) :
    (plan.finished store).2.Made ((plan.finished store).1.handle list) := by
  cases list with
  | requirePrimary =>
    exact (ListStore.extendedBy_fresh (plan.filled store) [] _ (plan.made_filled store)).1
  | requireSecondary => exact ListStore.made_fresh_next (plan.filled store) []

/-- What the finished record shows depends only on the plan. -/
theorem view_finished (plan : RecipePlan) (store : ListStore) :
    (plan.finished store).1.view (plan.finished store).2 = plan.shown := by
  have primary : (plan.finished store).2.read store.next = plan.ingredients := by
    calc (plan.finished store).2.read store.next
        = (plan.filled store).read store.next :=
          ListStore.read_fresh (plan.made_filled store) []
      _ = (store.fresh []).read store.next ++ plan.ingredients :=
          ListStore.read_pushAll_self (ListStore.made_fresh_next store []) plan.ingredients
      _ = plan.ingredients := by rw [ListStore.read_fresh_next, List.nil_append]
  have secondary : (plan.finished store).2.read (plan.filled store).next = [] :=
    ListStore.read_fresh_next (plan.filled store) []
  have contents : (fun list => (plan.finished store).2.read
      ((plan.finished store).1.handle list)) = plan.shown.contents := by
    funext list
    cases list with
    | requirePrimary => exact primary
    | requireSecondary => exact secondary
  rw [RecipeRecord.view, contents]
  rfl

end RecipePlan

/-! ## Planning -/

/-- A plan is for the number of its entry. -/
theorem planRecipe_id {ids : IdRanges} {items : Registry ItemDefinition}
    {recipes : Table RecipeRecord} {entry : Entry RecipeDefinition} {plan : RecipePlan}
    (planned : planRecipe ids items recipes entry = .ok plan) : plan.id = entry.id := by
  rw [planRecipe] at planned
  cases resolved : items.resolveItem? entry.package.id entry.definition.result with
  | none =>
    rw [resolved] at planned
    cases planned
  | some result =>
    rw [resolved] at planned
    cases taken : resolveIngredients items entry with
    | error cause =>
      rw [taken] at planned
      cases planned
    | ok ingredients =>
      cases started : templateFor recipes entry with
      | error cause =>
        rw [taken, started] at planned
        cases planned
      | ok template =>
        rw [taken, started] at planned
        cases written : template.setAll (recipeWrites ids entry result) with
        | error cause =>
          simp only [Bind.bind, Except.bind, written] at planned
          cases planned
        | ok record =>
          simp only [Bind.bind, Except.bind, written] at planned
          cases planned
          rfl

/-- A plan sees of the items only how references are resolved. -/
theorem planRecipe_congr {items other : Registry ItemDefinition}
    (same : ∀ package reference, items.resolveItem? package reference =
      other.resolveItem? package reference) (ids : IdRanges) (recipes : Table RecipeRecord)
    (entry : Entry RecipeDefinition) :
    planRecipe ids items recipes entry = planRecipe ids other recipes entry := by
  have ingredients : resolveIngredients items entry = resolveIngredients other entry := by
    simp only [resolveIngredients, same]
  rw [planRecipe, planRecipe, same, ingredients]

/-! ## Steps -/

/-- Everything a step of the recipe pass can come to. -/
inductive RecipeTurn (ids : IdRanges) (items : Registry ItemDefinition)
    (entry : Entry RecipeDefinition) (tables : Tables) :
    Except (Halt Tables) (Step Tables) → Prop
  /-- The recipe is there already. -/
  | present (present : tables.recipes.contains entry.id = true) :
      RecipeTurn ids items entry tables (.ok ⟨.skipped, entry.id, tables⟩)
  /-- The recipe cannot be planned. -/
  | failed (absent : tables.recipes.contains entry.id = false) (cause : InjectError)
      (failed : planRecipe ids items tables.recipes entry = .error cause) :
      RecipeTurn ids items entry tables (.error ⟨cause, tables⟩)
  /-- The recipe is made. -/
  | made (absent : tables.recipes.contains entry.id = false) (plan : RecipePlan)
      (planned : planRecipe ids items tables.recipes entry = .ok plan) :
      RecipeTurn ids items entry tables (.ok ⟨.injected, entry.id, plan.carryOut tables⟩)

/-- A step comes to one of the listed turns. -/
theorem recipeStep_turn (ids : IdRanges) (items : Registry ItemDefinition)
    (entry : Entry RecipeDefinition) (tables : Tables) :
    RecipeTurn ids items entry tables (recipeStep ids items entry tables) := by
  rw [recipeStep]
  by_cases present : tables.recipes.contains entry.id = true
  · rw [if_pos present]
    exact .present present
  · have absent : tables.recipes.contains entry.id = false := Bool.eq_false_iff.2 present
    rw [if_neg present]
    cases planned : planRecipe ids items tables.recipes entry with
    | error cause => exact .failed absent cause planned
    | ok plan => exact .made absent plan planned

instance atomic_recipeStep (ids : IdRanges) (items : Registry ItemDefinition) :
    Atomic (recipeStep ids items) where
  untouched {entry tables halt} failed := by
    have turn := recipeStep_turn ids items entry tables
    rw [failed] at turn
    cases turn
    rfl

/-- A step that did not fail comes to one of the listed turns. -/
theorem recipeTurn_of_ok {ids : IdRanges} {items : Registry ItemDefinition}
    {entry : Entry RecipeDefinition} {tables : Tables} {done : Step Tables}
    (ok : recipeStep ids items entry tables = .ok done) :
    RecipeTurn ids items entry tables (.ok done) := by
  rw [← ok]
  exact recipeStep_turn ids items entry tables

/-- A step does not look at the record last written for its entry. -/
theorem recipeStep_forget (ids : IdRanges) (items : Registry ItemDefinition)
    (entry : Entry RecipeDefinition) (tables : Tables) :
    recipeStep ids items entry.forget tables = recipeStep ids items entry tables := rfl

/-- A step sees of the items only how references are resolved. -/
theorem recipeStep_congr {items other : Registry ItemDefinition}
    (same : ∀ package reference, items.resolveItem? package reference =
      other.resolveItem? package reference) (ids : IdRanges) :
    recipeStep ids items = recipeStep ids other := by
  funext entry tables
  rw [recipeStep, recipeStep, planRecipe_congr same]

section Kept

variable {ids : IdRanges} {items : Registry ItemDefinition} {entry : Entry RecipeDefinition}
  {tables : Tables} {done : Step Tables}

/-- A step that skips its entry changes nothing. -/
theorem recipeStep_skipped (ok : recipeStep ids items entry tables = .ok done)
    (skipped : done.outcome = .skipped) : done.state = tables := by
  cases recipeTurn_of_ok ok with
  | present => rfl
  | made => cases skipped

/-- A step that does not skip its entry writes to the recipe table. -/
theorem recipeStep_writes (ok : recipeStep ids items entry tables = .ok done) :
    (done.outcome = .skipped ∧ done.state = tables) ∨
      tables.recipes.writes < done.state.recipes.writes := by
  cases recipeTurn_of_ok ok with
  | present => exact .inl ⟨rfl, rfl⟩
  | made => exact .inr (Nat.lt_succ_self _)

/-- A step never takes a record out of the recipe table. -/
theorem recipeStep_contains (ok : recipeStep ids items entry tables = .ok done) {id : Nat}
    (present : tables.recipes.contains id = true) :
    done.state.recipes.contains id = true := by
  cases recipeTurn_of_ok ok with
  | present => exact present
  | made =>
    exact Table.contains_set_of_contains present _ _

/-- A step keeps the recipe table ready. -/
theorem recipeStep_isReady (ok : recipeStep ids items entry tables = .ok done)
    (ready : tables.recipes.isReady = true) : done.state.recipes.isReady = true := by
  cases recipeTurn_of_ok ok with
  | present => exact ready
  | made => exact Table.isReady_set _ _ _

/-- After its step a recipe is in the table. -/
theorem recipeStep_present (ok : recipeStep ids items entry tables = .ok done) :
    done.state.recipes.contains entry.id = true := by
  cases recipeTurn_of_ok ok with
  | present present => exact present
  | made absent plan planned =>
    refine (Table.contains_set _ _ _ _).trans ?_
    rw [planRecipe_id planned, beq_self_eq_true, Bool.true_or]

/-- A step leaves the item table alone. -/
theorem recipeStep_items (ok : recipeStep ids items entry tables = .ok done) :
    done.state.items = tables.items := by
  cases recipeTurn_of_ok ok <;> rfl

/-- A step keeps tables grounded. -/
theorem recipeStep_grounded (ok : recipeStep ids items entry tables = .ok done)
    (grounded : tables.Grounded) : done.state.Grounded := by
  cases recipeTurn_of_ok ok with
  | present => exact grounded
  | made absent plan planned =>
    rw [RecipePlan.carryOut_eq]
    exact grounded.putRecipe (plan.extendedBy_finished tables.lists) plan.id
      (plan.made_finished tables.lists)

end Kept

end Modpack
