import Modpack.Proofs.FailingEntries
import Modpack.Proofs.IndependentPasses

/-!
# New recipes that start from the host's

The plan of a new recipe looks at the items it resolves and at one recipe, the declared base or the
first that makes an item. Where that one belongs to the host the plan is the same whatever other new
recipes were made before. Under other numbers of the items the recipe fails for the same reason or
its record is the same but for its own number and place, with the items renamed.
-/
namespace Modpack

/-! ## Other numbers -/

/-- An entry of a list with its item renamed. -/
def ListEntry.renumber (rename : Nat → Nat) : ListEntry → ListEntry
  | .ingredient item count => .ingredient (rename item) count
  | .parameter stat value => .parameter stat value

/-- What a recipe record shows, with all items renamed. -/
def RecipeView.renumber (rename : Nat → Nat) (view : RecipeView) : RecipeView :=
  ⟨{ view.plain with resultItem := rename view.plain.resultItem },
    fun list => (view.contents list).map (ListEntry.renumber rename)⟩

/-- What a recipe record shows apart from its number and its place. -/
def RecipeView.unlabelled (view : RecipeView) : RecipeView :=
  { view with plain := { view.plain with id := 0, index := 0 } }

/-- Every item that a recipe mentions by a number is the host's, and so is its base. -/
structure RecipeDefinition.OnHost (ids : IdRanges) (recipe : RecipeDefinition) : Prop where
  /-- The base. -/
  base : ∀ base, recipe.baseRecipe = some base → base < ids.recipeBase
  /-- The item it makes. -/
  result : recipe.result.Below ids.itemBase
  /-- The items it takes. -/
  ingredients : ∀ ingredient ∈ recipe.ingredients, ingredient.item.Below ids.itemBase

instance RecipeDefinition.decidableOnHost (ids : IdRanges) (recipe : RecipeDefinition) :
    Decidable (recipe.OnHost ids) :=
  decidable_of_iff ((∀ base ∈ recipe.baseRecipe, base < ids.recipeBase) ∧
      recipe.result.Below ids.itemBase ∧
      ∀ ingredient ∈ recipe.ingredients, ingredient.item.Below ids.itemBase)
    ⟨fun ⟨base, result, ingredients⟩ => ⟨base, result, ingredients⟩,
      fun onHost => ⟨onHost.base, onHost.result, onHost.ingredients⟩⟩

/-! ## Plans -/

section Plans

variable {ids : IdRanges} {left right : Registry ItemDefinition} {rename : Nat → Nat}
  {entry twin : Entry RecipeDefinition}

/-- The items a recipe takes are resolved alike under other numbers. -/
theorem resolveIngredients_renumber (same : entry.unnumbered = twin.unnumbered)
    (resolves : ∀ ingredient ∈ entry.definition.ingredients,
      right.resolveItem? entry.package.id ingredient.item =
        (left.resolveItem? entry.package.id ingredient.item).map rename) :
    resolveIngredients right twin =
      (resolveIngredients left entry).map (List.map (ListEntry.renumber rename)) := by
  obtain ⟨key, package, definition⟩ := Entry.of_unnumbered_eq same
  rw [resolveIngredients, resolveIngredients, ← key, ← package, ← definition]
  revert resolves
  induction entry.definition.ingredients with
  | nil => exact fun _ => rfl
  | cons ingredient rest ih =>
    intro resolves
    have later := ih fun other member => resolves other (List.mem_cons_of_mem ingredient member)
    rw [List.mapM_cons, List.mapM_cons, later, resolves ingredient List.mem_cons_self]
    cases left.resolveItem? entry.package.id ingredient.item with
    | none => rfl
    | some item =>
      generalize List.mapM (m := Except InjectError) _ rest = taken
      cases taken <;> rfl

/-- The recipe to start from does not depend on the number. -/
theorem templateFor_unnumbered (same : entry.unnumbered = twin.unnumbered)
    (recipes : Table RecipeRecord) : templateFor recipes twin = templateFor recipes entry := by
  obtain ⟨key, _, definition⟩ := Entry.of_unnumbered_eq same
  rw [templateFor, templateFor, key, definition]

/-- A plan with all items renamed. -/
def RecipePlan.renumber (rename : Nat → Nat) (plan : RecipePlan) : RecipePlan :=
  { plan with
    record := { plan.record with resultItem := rename plan.record.resultItem }
    ingredients := plan.ingredients.map (ListEntry.renumber rename) }

/-- What the record of a plan shows with all items renamed is what that of the renamed plan
shows. -/
theorem RecipePlan.shown_renumber (plan : RecipePlan) (rename : Nat → Nat) :
    plan.shown.unlabelled.renumber rename = (plan.renumber rename).shown.unlabelled := by
  have contents : (fun list => (plan.shown.contents list).map (ListEntry.renumber rename)) =
      (plan.renumber rename).shown.contents := by
    funext list
    cases list <;> rfl
  rw [RecipeView.renumber, RecipeView.unlabelled, contents]
  rfl

/-- The record of a new recipe; all it has from its template are the handles. -/
def recipeFrom (ids : IdRanges) (entry : Entry RecipeDefinition) (result : Nat)
    (template : RecipeRecord) : RecipeRecord :=
  { id := entry.id
    kind := RecipeRecord.itemKind
    index := ids.recipeIndex entry.id
    requiredSkill := entry.definition.skillRequired
    active := true
    difficulty := 0
    title := recipeTitle entry
    resultItem := result
    resultCount := entry.definition.resultCount
    bench := entry.definition.benchType.name
    requirePrimary := template.requirePrimary
    requireSecondary := template.requireSecondary }

/-- A new recipe writes every plain field of its template. -/
theorem setAll_recipeWrites (template : RecipeRecord) (result : Nat) :
    template.setAll (recipeWrites ids entry result) =
      .ok (recipeFrom ids entry result template) := rfl

/-- Under other numbers of the items a recipe is planned alike, its own number and place apart. -/
theorem planRecipe_renumber (same : entry.unnumbered = twin.unnumbered)
    (result : right.resolveItem? entry.package.id entry.definition.result =
      (left.resolveItem? entry.package.id entry.definition.result).map rename)
    (ingredients : ∀ ingredient ∈ entry.definition.ingredients,
      right.resolveItem? entry.package.id ingredient.item =
        (left.resolveItem? entry.package.id ingredient.item).map rename)
    (recipes : Table RecipeRecord) :
    (planRecipe ids right recipes twin).map (fun plan => plan.shown.unlabelled) =
      (planRecipe ids left recipes entry).map fun plan =>
        plan.shown.unlabelled.renumber rename := by
  have taken := resolveIngredients_renumber same ingredients
  have started := templateFor_unnumbered same recipes
  obtain ⟨key, number, package, recipe, written⟩ := entry
  obtain ⟨_, number', _, _, written'⟩ := twin
  obtain ⟨rfl, rfl, rfl⟩ := Entry.of_unnumbered_eq same
  rw [planRecipe, planRecipe, taken, started, result]
  cases left.resolveItem? package.id recipe.result with
  | none => rfl
  | some made =>
    cases resolveIngredients left ⟨key, number, package, recipe, written⟩ with
    | error cause => rfl
    | ok ingredients =>
      cases templateFor recipes ⟨key, number, package, recipe, written⟩ with
      | error cause => rfl
      | ok template =>
        let plan : RecipePlan :=
          ⟨number, recipeFrom ids ⟨key, number, package, recipe, written⟩ made template,
            ingredients⟩
        simp only [Except.map, Bind.bind, Except.bind, setAll_recipeWrites]
        exact congrArg Except.ok (plan.shown_renumber rename).symm

end Plans

/-! ## The first recipe that makes an item -/

/-- The first entry of a kind stays the first when a value is written under a greater id. -/
theorem IdMap.first_insert {α : Type} {map : IdMap α} {isKind : Nat × α → Bool}
    {first : Nat × α} (found : map.entries.find? isKind = some first) {id : Nat}
    (greater : first.1 < id) (value : α) :
    (map.insert id value).entries.find? isKind = some first := by
  change (put id value map.entries).find? isKind = some first
  have ascending := map.ascending
  revert found ascending
  induction map.entries with
  | nil =>
    intro found
    cases found
  | cons entry rest ih =>
    intro found ascending
    obtain ⟨below, later⟩ := List.pairwise_cons.1 ascending
    have passed : entry.1 < id := by
      rcases List.mem_cons.1 (List.mem_of_find?_eq_some found) with rfl | inRest
      · exact greater
      · exact Nat.lt_trans (below first inRest) greater
    rw [put, if_neg (by omega), if_neg (by omega)]
    rw [List.find?_cons] at found ⊢
    cases isOne : isKind entry with
    | true =>
      rw [isOne] at found
      exact found
    | false =>
      rw [isOne] at found
      exact ih found later

/-- The first recipe that makes an item, with its number. -/
def Table.firstItemRecipe? (recipes : Table RecipeRecord) : Option (Nat × RecipeRecord) :=
  recipes.records.entries.find? fun found => found.2.isItemRecipe

/-- The recipe to start from is the same where the declared base and the first recipe that makes an
item are. -/
theorem templateFor_congr {recipes other : Table RecipeRecord} {entry : Entry RecipeDefinition}
    (declared : ∀ base, entry.definition.baseRecipe = some base →
      recipes.get? base = other.get? base)
    (first : recipes.firstItemRecipe? = other.firstItemRecipe?) :
    templateFor recipes entry = templateFor other entry := by
  rw [templateFor, templateFor]
  cases named : entry.definition.baseRecipe with
  | some base => simp only [declared base named]
  | none =>
    rw [Table.firstItemRecipe?, Table.firstItemRecipe?] at first
    simp only [first]

/-! ## Prospects -/

/-- Tables in which new recipes may have been made since a pass began. -/
structure Tables.RecipesSince (ids : IdRanges) (before tables : Tables) : Prop where
  /-- The host's own recipes are as they were. -/
  recipes : ∀ id < ids.recipeBase, tables.recipes.get? id = before.recipes.get? id
  /-- The first recipe that makes an item is the one it was. -/
  first : tables.recipes.firstItemRecipe? = before.recipes.firstItemRecipe?
  /-- The items show what they showed. -/
  items : tables.itemView = before.itemView
  /-- Every handle is of a list that was made. -/
  grounded : tables.Grounded

/-- What is expected of new recipes, told from the tables before the pass. -/
def recipeProspect (ids : IdRanges) (items : Registry ItemDefinition) (before : Tables) :
    Prospect Tables RecipeDefinition (Option RecipeView) where
  fits := Tables.RecipesSince ids before
  shows tables id := tables.recipeView.get? id
  nothing := none
  plan entry := (planRecipe ids items before.recipes entry).map fun plan =>
    (.injected, some plan.shown)

section Pass

variable {ids : IdRanges} {items : Registry ItemDefinition} {before : Tables}
  {entry : Entry RecipeDefinition}

/-- What is expected of an entry is what its plan comes to. -/
theorem recipeProspect_plan (ids : IdRanges) (items : Registry ItemDefinition) (before : Tables)
    (entry : Entry RecipeDefinition) :
    (recipeProspect ids items before).plan entry =
      (planRecipe ids items before.recipes entry).map fun plan => (.injected, some plan.shown) :=
  rfl

/-- The step of a new recipe comes to what is planned from the tables before the pass, and where it
fails it leaves the tables as they were. -/
theorem recipeStep_of_since (onHost : entry.definition.OnHost ids) {tables : Tables}
    (since : before.RecipesSince ids tables) (free : tables.recipeView.get? entry.id = none) :
    recipeStep ids items entry tables =
      (leaving tables (planRecipe ids items before.recipes entry)).map fun plan =>
        ⟨.injected, entry.id, plan.carryOut tables⟩ := by
  have absent : tables.recipes.contains entry.id = false := by
    rw [← Tables.contains_recipeView, ← IdMap.get?_eq_none_iff]
    exact free
  have template : templateFor tables.recipes entry = templateFor before.recipes entry :=
    templateFor_congr (fun base named => since.recipes base (onHost.base base named)) since.first
  have plan : planRecipe ids items tables.recipes entry =
      planRecipe ids items before.recipes entry := by rw [planRecipe, planRecipe, template]
  rw [recipeStep, if_neg (Bool.eq_false_iff.1 absent), plan]
  cases planRecipe ids items before.recipes entry <;> rfl

/-- What is expected of a new recipe that starts from the host's is what its step comes to. -/
theorem recipeProspect_holds {first : Nat × RecipeRecord}
    (found : before.recipes.firstItemRecipe? = some first) (below : first.1 < ids.recipeBase)
    (onHost : entry.definition.OnHost ids) (own : ids.recipeBase ≤ entry.id) :
    (recipeProspect ids items before).Holds (recipeStep ids items) entry := by
  constructor
  · intro tables cause since free expected
    rw [recipeProspect_plan] at expected
    rw [recipeStep_of_since onHost since free]
    cases planned : planRecipe ids items before.recipes entry with
    | error cause' =>
      rw [planned] at expected
      obtain rfl := Except.error.inj expected
      rfl
    | ok plan =>
      rw [planned] at expected
      cases expected
  · intro tables outcome shown since free expected
    have step : recipeStep ids items entry tables = _ := recipeStep_of_since onHost since free
    rw [recipeProspect_plan] at expected
    cases planned : planRecipe ids items before.recipes entry with
    | error cause =>
      rw [planned] at expected
      cases expected
    | ok plan =>
      rw [planned] at expected step
      obtain ⟨rfl, rfl⟩ := Prod.mk.inj (Except.ok.inj expected)
      have id := planRecipe_id planned
      have extended := plan.extendedBy_finished tables.lists
      refine ⟨_, step, rfl, ⟨fun other isHost => ?_, ?_, ?_, ?_⟩, fun other => ?_⟩
      · rw [← since.recipes other isHost]
        refine (Table.get?_set _ plan.id other _).trans (if_neg ?_)
        omega
      · rw [found]
        refine IdMap.first_insert (since.first.trans found) ?_ _
        omega
      · rw [← since.items]
        exact since.grounded.itemView_putRecipe extended _ _
      · exact recipeStep_grounded step since.grounded
      · change (plan.carryOut tables).recipeView.get? other = _
        rw [RecipePlan.carryOut_eq, since.grounded.recipeView_putRecipe extended,
          IdMap.get?_insert, plan.view_finished, id]
        rfl

/-- What is expected of a new recipe under other numbers of the items: the same outcome, and the
same record with the items renamed, its own number and place apart. -/
theorem recipeProspect_alike {left right : Registry ItemDefinition} {rename : Nat → Nat}
    {before' : Tables} {twin : Entry RecipeDefinition} (same : entry.unnumbered = twin.unnumbered)
    (resolves : ∀ package reference, reference.Below ids.itemBase →
      right.resolveItem? package reference = (left.resolveItem? package reference).map rename)
    (onHost : entry.definition.OnHost ids) (recipes : before.recipes = before'.recipes) :
    ((recipeProspect ids right before').plan twin).map
        (Prod.map id (Option.map RecipeView.unlabelled)) =
      ((recipeProspect ids left before).plan entry).map
        (Prod.map id (Option.map fun view => view.unlabelled.renumber rename)) := by
  have plans : (planRecipe ids right before.recipes twin).map _ = _ :=
    planRecipe_renumber same (resolves _ _ onHost.result)
      (fun ingredient member => resolves _ _ (onHost.ingredients ingredient member)) before.recipes
  let comesTo (view : RecipeView) : Outcome × Option RecipeView := (.injected, some view)
  calc ((recipeProspect ids right before').plan twin).map
        (Prod.map id (Option.map RecipeView.unlabelled))
      = ((planRecipe ids right before.recipes twin).map fun plan => plan.shown.unlabelled).map
          comesTo := by
        rw [recipeProspect_plan, recipes]
        cases planRecipe ids right before'.recipes twin <;> rfl
    _ = ((planRecipe ids left before.recipes entry).map fun plan =>
          plan.shown.unlabelled.renumber rename).map comesTo := by rw [plans]
    _ = ((recipeProspect ids left before).plan entry).map
        (Prod.map id (Option.map fun view => view.unlabelled.renumber rename)) := by
        rw [recipeProspect_plan]
        cases planRecipe ids left before.recipes entry <;> rfl

/-- The outcome that is expected of a new recipe depends neither on its number nor on the numbers of
the items. -/
theorem recipeProspect_outcome {left right : Registry ItemDefinition} {rename : Nat → Nat}
    {before' : Tables}
    (resolves : ∀ package reference, reference.Below ids.itemBase →
      right.resolveItem? package reference = (left.resolveItem? package reference).map rename)
    (onHost : entry.definition.OnHost ids) (recipes : before.recipes = before'.recipes) :
    (recipeProspect ids left before).outcome entry =
      (recipeProspect ids right before').outcome entry.unnumbered := by
  have same : entry.unnumbered = entry.unnumbered.unnumbered := rfl
  exact (Prospect.alike (recipeProspect_alike same resolves onHost recipes) rfl).1.symm

end Pass

end Modpack
