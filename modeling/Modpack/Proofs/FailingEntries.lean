import Modpack.Proofs.Engines
import Modpack.Proofs.Turns

/-!
# Entries that fail

A patch fails when its target is missing, a new item when its own record and its base are, and a
recipe that is absent when something it needs is. Every value that a step writes fits its field, so
the host refuses none of them, not even halfway through a record that is patched in place, and
nothing else can go wrong. Whatever a step needs it looks up before it writes. So an entry that
fails leaves the state it found, and without it the pass comes to the same.
-/
namespace Modpack

/-! ## Items -/

/-- The target of a patch is missing, or of a new item both its record and its base are. -/
def Entry.ItemFails (entry : Entry ItemDefinition) (state : ItemState) : Prop :=
  entry.isPatch = true ∧
      state.tables.items.contains entry.definition.targetItemId = false ∨
    entry.isPatch = false ∧ state.tables.items.contains entry.id = false ∧
      state.tables.items.contains entry.definition.baseItem = false

/-- An item fails when it must, and never because the host refuses a value. -/
theorem itemStep_error_iff (ids : IdRanges) (entry : Entry ItemDefinition) (state : ItemState) :
    ((∃ halt, itemStep ids entry state = .error halt) ↔ entry.ItemFails state) ∧
      ∀ halt, itemStep ids entry state = .error halt → ∀ error, halt.cause ≠ .host error := by
  have turn := itemStep_turn ids entry state
  generalize itemStep ids entry state = result at turn ⊢
  cases turn with
  | targetMissing patches missing =>
    have absent := Table.get?_eq_none_iff.1 missing
    refine ⟨⟨fun _ => .inl ⟨patches, absent⟩, fun _ => ⟨_, rfl⟩⟩, fun halt failed error => ?_⟩
    simp [← Except.error.inj failed]
  | baseMissing makes absent missing =>
    have noBase := Table.get?_eq_none_iff.1 missing
    refine ⟨⟨fun _ => .inr ⟨makes, absent, noBase⟩, fun _ => ⟨_, rfl⟩⟩, fun halt failed error => ?_⟩
    simp [← Except.error.inj failed]
  | upToDate patches record found | patched patches record written found =>
    have there := Table.contains_of_get? found
    simp [Entry.ItemFails, patches, there]
  | present makes present => simp [Entry.ItemFails, makes, present]
  | made makes absent base record found accepted =>
    have there := Table.contains_of_get? found
    simp [Entry.ItemFails, makes, there]

/-! ## Recipes -/

/-- Something that a recipe needs is missing: an item it makes or takes, the declared base, or,
where none is declared, any recipe that makes an item. -/
def Entry.NeedsMissing (items : Registry ItemDefinition) (recipes : Table RecipeRecord)
    (entry : Entry RecipeDefinition) : Prop :=
  items.resolveItem? entry.package.id entry.definition.result = none ∨
  (∃ ingredient ∈ entry.definition.ingredients,
    items.resolveItem? entry.package.id ingredient.item = none) ∨
  (∃ base, entry.definition.baseRecipe = some base ∧ recipes.contains base = false) ∨
  entry.definition.baseRecipe = none ∧
    ∀ id record, recipes.get? id = some record → record.isItemRecipe = false

/-- The ingredients of a recipe are resolved when each of them is. -/
theorem resolveIngredients_cases (items : Registry ItemDefinition)
    (entry : Entry RecipeDefinition) :
    ((∀ ingredient ∈ entry.definition.ingredients,
        items.resolveItem? entry.package.id ingredient.item ≠ none) ∧
      ∃ resolved, resolveIngredients items entry = .ok resolved) ∨
    (∃ ingredient ∈ entry.definition.ingredients,
        items.resolveItem? entry.package.id ingredient.item = none) ∧
      ∃ item, resolveIngredients items entry = .error (.ingredientUnresolved entry.key item) := by
  rw [resolveIngredients]
  induction entry.definition.ingredients with
  | nil => exact .inl ⟨by simp, [], rfl⟩
  | cons ingredient rest ih =>
    rw [List.mapM_cons]
    cases found : items.resolveItem? entry.package.id ingredient.item with
    | none =>
      exact .inr ⟨⟨ingredient, List.mem_cons_self, found⟩, ingredient.item.text, rfl⟩
    | some item =>
      rcases ih with ⟨all, resolved, later⟩ | ⟨⟨other, member, missing⟩, text, later⟩
      · refine .inl ⟨fun other member => ?_, .ingredient item ingredient.count :: resolved, ?_⟩
        · rcases List.mem_cons.1 member with rfl | inRest
          · rw [found]
            exact Option.some_ne_none item
          · exact all other inRest
        · rw [later]
          rfl
      · refine .inr ⟨⟨other, List.mem_cons_of_mem _ member, missing⟩, text, ?_⟩
        rw [later]
        rfl

/-- There is a recipe to start from when the declared one is there, or, where none is declared, when
one makes an item. -/
theorem templateFor_cases (recipes : Table RecipeRecord) (entry : Entry RecipeDefinition) :
    (((∀ base, entry.definition.baseRecipe = some base → recipes.contains base = true) ∧
        (entry.definition.baseRecipe = none →
          ∃ id record, recipes.get? id = some record ∧ record.isItemRecipe = true)) ∧
      ∃ template, templateFor recipes entry = .ok template) ∨
    (((∃ base, entry.definition.baseRecipe = some base ∧ recipes.contains base = false) ∨
        entry.definition.baseRecipe = none ∧
          ∀ id record, recipes.get? id = some record → record.isItemRecipe = false) ∧
      ∃ cause, templateFor recipes entry = .error cause ∧ ∀ error, cause ≠ .host error) := by
  rw [templateFor]
  cases entry.definition.baseRecipe with
  | some base =>
    cases found : recipes.get? base with
    | some record =>
      refine .inl ⟨⟨fun other same => ?_, fun none => nomatch none⟩, record, by simp only [found]⟩
      obtain rfl := Option.some.inj same
      exact Table.contains_of_get? found
    | none =>
      exact .inr ⟨.inl ⟨base, rfl, Table.get?_eq_none_iff.1 found⟩,
        .baseMissing entry.key base, by simp only [found], fun error => by simp⟩
  | none =>
    cases first : recipes.records.entries.find? fun found => found.2.isItemRecipe with
    | some found =>
      have member := List.mem_of_find?_eq_some first
      have there := (IdMap.mem_entries_iff recipes.records found.1 found.2).1 member
      refine .inl ⟨⟨fun base named => ?_, fun _ => ?_⟩, found.2, rfl⟩
      · cases named
      · have isItem := List.find?_some first
        exact ⟨found.1, found.2, there, isItem⟩
    | none =>
      refine .inr ⟨.inr ⟨rfl, fun id record found => ?_⟩, .templateMissing entry.key, rfl,
        fun error => by simp⟩
      have member := (IdMap.mem_entries_iff recipes.records id record).2 found
      exact Bool.eq_false_iff.2 (List.find?_eq_none.1 first _ member)

/-- Every value a new recipe writes is of the type of its field. -/
theorem recipeWrites_own_types (ids : IdRanges) (entry : Entry RecipeDefinition) (result : Nat) :
    ∀ write ∈ recipeWrites ids entry result, write.2.typeName = write.1.valueType := by
  simp [recipeWrites, FieldValue.typeName, RecipeField.valueType]

/-- A recipe can be planned unless something it needs is missing, and then the plan does not fail
because the host refuses a value. -/
theorem planRecipe_cases (ids : IdRanges) (items : Registry ItemDefinition)
    (recipes : Table RecipeRecord) (entry : Entry RecipeDefinition) :
    (¬ entry.NeedsMissing items recipes ∧
      ∃ plan, planRecipe ids items recipes entry = .ok plan) ∨
    entry.NeedsMissing items recipes ∧
      ∃ cause,
        planRecipe ids items recipes entry = .error cause ∧ ∀ error, cause ≠ .host error := by
  rw [planRecipe]
  cases made : items.resolveItem? entry.package.id entry.definition.result with
  | none => exact .inr ⟨.inl made, _, rfl, fun error => by simp⟩
  | some result =>
    rcases resolveIngredients_cases items entry with
      ⟨all, ingredients, taken⟩ | ⟨lacking, text, cause⟩
    · rcases templateFor_cases recipes entry with
        ⟨⟨declared, any⟩, template, started⟩ | ⟨lacking, cause, failed, apart⟩
      · obtain ⟨record, written⟩ :=
          RecipeRecord.setAll_own_types template (recipeWrites_own_types ids entry result)
        refine .inl ⟨?_, ⟨entry.id, record, ingredients⟩, ?_⟩
        · rintro (noResult | ⟨ingredient, member, missing⟩ | ⟨base, named, absent⟩ | ⟨none, never⟩)
          · rw [made] at noResult
            cases noResult
          · exact all ingredient member missing
          · rw [declared base named] at absent
            cases absent
          · obtain ⟨id, record, found, isItem⟩ := any none
            rw [never id record found] at isItem
            cases isItem
        · simp only [taken, started, Bind.bind, Except.bind, written]
      · refine .inr ⟨.inr (.inr lacking), cause, ?_, apart⟩
        simp only [taken, failed, Bind.bind, Except.bind]
    · refine .inr ⟨.inr (.inl lacking), .ingredientUnresolved entry.key text, ?_,
        fun error => by simp⟩
      simp only [cause, Bind.bind, Except.bind]

/-- A recipe fails when it is absent and something it needs is missing, and never because the host
refuses a value. -/
theorem recipeStep_error_iff (ids : IdRanges) (items : Registry ItemDefinition)
    (entry : Entry RecipeDefinition) (tables : Tables) :
    ((∃ halt, recipeStep ids items entry tables = .error halt) ↔
      tables.recipes.contains entry.id = false ∧ entry.NeedsMissing items tables.recipes) ∧
      ∀ halt, recipeStep ids items entry tables = .error halt →
        ∀ error, halt.cause ≠ .host error := by
  have turn := recipeStep_turn ids items entry tables
  generalize recipeStep ids items entry tables = result at turn ⊢
  cases turn with
  | present present => simp [present]
  | failed absent cause failed =>
    rcases planRecipe_cases ids items tables.recipes entry with
      ⟨_, plan, planned⟩ | ⟨missing, cause', failed', apart⟩
    · rw [failed] at planned
      cases planned
    · obtain rfl : cause = cause' := Except.error.inj (failed.symm.trans failed')
      refine ⟨⟨fun _ => ⟨absent, missing⟩, fun _ => ⟨_, rfl⟩⟩, fun halt same => ?_⟩
      obtain rfl := Except.error.inj same
      exact apart
  | made absent plan planned =>
    rcases planRecipe_cases ids items tables.recipes entry with
      ⟨fine, _⟩ | ⟨_, cause, failed, _⟩
    · simp [fine]
    · rw [planned] at failed
      cases failed

/-! ## Passes -/

/-- Failures of a pass are isolated: the pass runs, the entries that fail are those that must, they
leave the state they found, and without them the pass comes to the same but for its failures. -/
structure Isolates {σ δ : Type} [Definition δ]
    (inject : Registry δ → Except InjectError (Pass σ δ))
    (step : Entry δ → σ → Except (Halt σ) (Step σ)) (fails : Entry δ → σ → Prop)
    (registry : Registry δ) (state : σ) : Prop where
  /-- The pass comes to what its turns tell. -/
  runs : inject registry = .ok (.ofTurns state (turns step registry.entries state))
  /-- At its turn an entry fails exactly when it must. -/
  fails_iff : ∀ turn ∈ turns step registry.entries state,
    turn.failed = true ↔ fails turn.entry turn.state
  /-- The host refuses no value. -/
  accepted : ∀ turn ∈ turns step registry.entries state, ∀ halt, turn.result = .error halt →
    ∀ error, halt.cause ≠ .host error
  /-- An entry that fails leaves the state it found. -/
  untouched : ∀ turn ∈ turns step registry.entries state, ∀ halt, turn.result = .error halt →
    halt.state = turn.state
  /-- Over a registry of the other entries each of them has the turn it had, none fails, and the
  pass ends in the same state and reports the same but for the failures. -/
  apart : ∀ others : Registry δ, others.entries = survivors step registry.entries state →
    ∃ pass rest, inject registry = .ok pass ∧ inject others = .ok rest ∧
      rest = .ofTurns state
        ((turns step registry.entries state).filter fun turn => !turn.failed) ∧
      rest.state = pass.state ∧ rest.report = { pass.report with failed := 0 } ∧
      rest.failures = []

/-- Failures are isolated where a pass takes the entries of a registry one by one and each step
fails exactly when it must, never because the host refuses a value. -/
theorem isolates_of_step {σ δ : Type} [Definition δ]
    {inject : Registry δ → Except InjectError (Pass σ δ)}
    {step : Entry δ → σ → Except (Halt σ) (Step σ)} [Atomic step]
    {fails : Entry δ → σ → Prop} {state : σ}
    (runs : ∀ registry, inject registry = .ok (runPass step registry.entries state))
    (sound : ∀ entry state, ((∃ halt, step entry state = .error halt) ↔ fails entry state) ∧
      ∀ halt, step entry state = .error halt → ∀ error, halt.cause ≠ .host error)
    (registry : Registry δ) : Isolates inject step fails registry state := by
  have result {turn : Turn σ δ} (member : turn ∈ turns step registry.entries state) :
      turn.result = step turn.entry turn.state := by
    obtain ⟨_, _, _, _, result⟩ := mem_turns_iff.1 member
    exact result
  refine ⟨?_, fun turn member => ?_, fun turn member halt failed => ?_,
    fun turn member halt failed => ?_, fun others entries => ?_⟩
  · rw [runs, runPass_eq_ofTurns]
  · rw [← (sound turn.entry turn.state).1, ← result member, Turn.failed, Turn.outcome?]
    cases turn.result <;> simp
  · rw [result member] at failed
    exact (sound turn.entry turn.state).2 halt failed
  · rw [result member] at failed
    exact Atomic.untouched failed
  · refine ⟨_, _, runs registry, runs others, ?_, ?_, ?_, ?_⟩
    · rw [runPass_eq_ofTurns, entries, turns_survivors]
    · rw [entries]
      exact runPass_survivors_state registry.entries state
    · rw [runPass_eq_ofTurns, runPass_eq_ofTurns, entries, turns_survivors]
      exact report_filter _
    · rw [runPass_eq_ofTurns, entries, turns_survivors]
      exact failures_filter _

/-- A recipe fails in tables when its record is absent and something it needs is missing. -/
def Entry.RecipeFails (items : Registry ItemDefinition) (entry : Entry RecipeDefinition)
    (tables : Tables) : Prop :=
  tables.recipes.contains entry.id = false ∧ entry.NeedsMissing items tables.recipes

/-- While the recipe table is not ready, an injection is the item pass alone, or nothing. -/
theorem Engine.injectContent_without_recipes {engine : Engine} {tables : Tables}
    (unready : tables.recipes.isReady = false) :
    (engine.injectContent tables = ⟨{}, [], engine, tables⟩ ∨
      engine.injectContent tables = engine.itemsInjection tables) ∧
      (engine.injectContent tables).engine.recipes = engine.recipes ∧
      (engine.injectContent tables).tables.recipes = tables.recipes := by
  have either : engine.injectContent tables = ⟨{}, [], engine, tables⟩ ∨
      engine.injectContent tables = engine.itemsInjection tables := by
    by_cases runs : engine.injected = true ∧ engine.needsInjection tables = false
    · rw [injectContent, runs.1, runs.2]
      exact .inl rfl
    · cases itemsReady : tables.items.isReady with
      | false => exact .inl (injectContent_of_items_unready itemsReady)
      | true => exact .inr (injectContent_of_recipes_unready runs itemsReady unready)
  refine ⟨either, ?_⟩
  rcases either with nothing | items
  · rw [nothing]
    exact ⟨rfl, rfl⟩
  · rw [items]
    exact ⟨rfl, engine.itemPass_recipes tables⟩

/-- Over a table that is ready, an item fails when the target it patches is missing, or its own
record and its base are; a recipe fails when its record is absent and something it needs is missing;
the host refuses no value; an entry that fails leaves the state it found; and without the entries
that fail a pass comes to the same. A table that is not ready refuses the pass, and nothing
changes. -/
theorem failing_entries_leave_no_trace (engine : Engine) (tables : Tables) :
    (tables.items.isReady = true →
      Isolates (fun items => injectItems engine.ids items ⟨tables, engine.marks⟩)
        (itemStep engine.ids) Entry.ItemFails engine.items ⟨tables, engine.marks⟩) ∧
    (tables.recipes.isReady = true →
      Isolates (fun recipes => injectRecipes engine.ids recipes engine.items tables)
        (recipeStep engine.ids engine.items) (Entry.RecipeFails engine.items) engine.recipes
        tables) ∧
    (tables.items.isReady = false →
      engine.injectItems tables = .error (.tableNotReady Tables.itemsName) ∧
        engine.injectContent tables = ⟨{}, [], engine, tables⟩) ∧
    (tables.recipes.isReady = false →
      engine.injectRecipes tables = .error (.tableNotReady Tables.recipesName) ∧
        (engine.injectContent tables = ⟨{}, [], engine, tables⟩ ∨
          engine.injectContent tables = engine.itemsInjection tables) ∧
        (engine.injectContent tables).engine.recipes = engine.recipes ∧
        (engine.injectContent tables).tables.recipes = tables.recipes) := by
  refine ⟨fun ready => ?_, fun ready => ?_, fun unready => ⟨?_, ?_⟩, fun unready => ⟨?_, ?_⟩⟩
  · refine isolates_of_step (fun items => ?_) (itemStep_error_iff engine.ids) engine.items
    rw [injectItems, if_pos ready]
  · refine isolates_of_step (fun recipes => ?_) (recipeStep_error_iff engine.ids engine.items)
      engine.recipes
    rw [injectRecipes, if_pos ready]
  · exact Engine.injectItems_of_unready unready
  · exact Engine.injectContent_of_items_unready unready
  · exact Engine.injectRecipes_of_unready unready
  · exact Engine.injectContent_without_recipes unready

/-- A package in which only the first item and the first recipe can be made. -/
def spoiled : Package :=
  { info := .inMemory "spoiled"
    items :=
      [{ id := "bread" }, { id := "toast", baseItem := 60002 }, { id := "sauce", baseItem := 77 },
        { id := "salt", isModify := true, targetItemId := 78 }]
    recipes :=
      [{ id := "bake", result := .name "bread" }, { id := "melt", result := .name "cheese" },
        { id := "fry", result := .name "toast", ingredients := [{ item := .name "oil" }] },
        { id := "stew", result := .name "sauce", baseRecipe := some 101 }] }

/-- The other entries of that package fail over a seeded host and leave no trace; over a host
without tables nothing happens. -/
theorem spoiled_leave_no_trace :
    let engine := ((Engine.empty {}).registerPackage spoiled).engine
    let tables := Host.seeded.tables
    tables.items.isReady = true ∧ tables.recipes.isReady = true ∧
    Host.empty.tables.items.isReady = false ∧ Host.empty.tables.recipes.isReady = false ∧
    (turns (itemStep engine.ids) engine.items.entries ⟨tables, engine.marks⟩).map Turn.failed =
      [false, true, true, true] ∧
    (turns (recipeStep engine.ids engine.items) engine.recipes.entries tables).map Turn.failed =
      [false, true, true, true] ∧
    Isolates (fun items => injectItems engine.ids items ⟨tables, engine.marks⟩)
      (itemStep engine.ids) Entry.ItemFails engine.items ⟨tables, engine.marks⟩ ∧
    Isolates (fun recipes => injectRecipes engine.ids recipes engine.items tables)
      (recipeStep engine.ids engine.items) (Entry.RecipeFails engine.items) engine.recipes tables ∧
    engine.injectItems Host.empty.tables = .error (.tableNotReady Tables.itemsName) ∧
    engine.injectRecipes Host.empty.tables = .error (.tableNotReady Tables.recipesName) ∧
    engine.injectContent Host.empty.tables = ⟨{}, [], engine, Host.empty.tables⟩ := by
  intro engine tables
  have itemsReady : tables.items.isReady = true := by decide
  have recipesReady : tables.recipes.isReady = true := by decide
  obtain ⟨items, recipes, _, _⟩ := failing_entries_leave_no_trace engine tables
  obtain ⟨_, _, noItems, noRecipes⟩ := failing_entries_leave_no_trace engine Host.empty.tables
  exact ⟨itemsReady, recipesReady, rfl, rfl, by decide, by decide, items itemsReady,
    recipes recipesReady, (noItems rfl).1, (noRecipes rfl).1, (noItems rfl).2⟩

end Modpack
