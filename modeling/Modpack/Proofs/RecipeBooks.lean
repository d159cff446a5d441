import Modpack.Injection.Recipes
import Modpack.Proofs.LoadOrder
import Modpack.Proofs.RecipeSteps

/-!
# Books of known recipes

A recipe that unlocks by itself is taught under the record last written for it, if the table has
that record. A pass writes for every recipe whose own record is in the table afterwards, and leaves
the rest alone, since no two recipes have one number. So after a pass a book gains the numbers of
the recipes that unlock by themselves and are in the table. It gains another record only where the
record noted for a recipe was set by hand to that of another, and the pass, which fails for the
recipe, does not put it right.
-/
namespace Modpack

/-! ## Registries of recipes -/

/-- Something that happens to a registry of recipes. -/
inductive RecipeEvent where
  /-- A recipe is offered. -/
  | offer (offer : Offer RecipeDefinition)
  /-- A pass over some host is tried. -/
  | inject (ids : IdRanges) (items : Registry ItemDefinition) (tables : Tables)
  /-- The record last written for a recipe is set or cleared by hand. -/
  | note (key : String) (record : Option Nat)

/-- The recipes an event offers. -/
def RecipeEvent.offers : RecipeEvent → List (Offer RecipeDefinition)
  | .offer made => [made]
  | _ => []

namespace Registry

/-- The registry after a pass was tried. -/
def afterPass (recipes : Registry RecipeDefinition) (ids : IdRanges)
    (items : Registry ItemDefinition) (tables : Tables) : Registry RecipeDefinition :=
  match injectRecipes ids recipes items tables with
  | .ok pass => { recipes with entries := pass.entries }
  | .error _ => recipes

/-- The registry after an event. -/
def meet (recipes : Registry RecipeDefinition) : RecipeEvent → Registry RecipeDefinition
  | .offer offer => recipes.accept offer.package offer.definition
  | .inject ids items tables => recipes.afterPass ids items tables
  | .note key record => recipes.setMaterialized key record

/-- The registry after events, in order. -/
def meetAll (recipes : Registry RecipeDefinition) (events : List RecipeEvent) :
    Registry RecipeDefinition :=
  events.foldl meet recipes

/-- A pass leaves a registry as it is but for the records last written. -/
theorem afterPass_forget (recipes : Registry RecipeDefinition) (ids : IdRanges)
    (items : Registry ItemDefinition) (tables : Tables) :
    (recipes.afterPass ids items tables).forget = recipes.forget := by
  rw [afterPass, injectRecipes]
  by_cases ready : tables.recipes.isReady = true
  · rw [if_pos ready]
    exact forget_of_entries (runPass_entries_forget _ _)
  · rw [if_neg ready]

/-- Setting a record by hand leaves a registry as it is but for the records last written. -/
theorem setMaterialized_forget (recipes : Registry RecipeDefinition) (key : String)
    (record : Option Nat) : (recipes.setMaterialized key record).forget = recipes.forget := by
  refine forget_of_entries ?_
  rw [List.map_map]
  refine List.map_congr_left fun entry _ => ?_
  rw [Function.comp_apply]
  split <;> rfl

/-- An event adds its offers to the content of a registry and nothing else. -/
theorem meet_forget (recipes : Registry RecipeDefinition) (event : RecipeEvent) :
    (recipes.meet event).forget = (recipes.offerAll event.offers).forget := by
  cases event with
  | offer offer => rfl
  | inject ids items tables => exact recipes.afterPass_forget ids items tables
  | note key record => exact recipes.setMaterialized_forget key record

/-- After events a registry has the content that their offers lead to. -/
theorem meetAll_forget (recipes : Registry RecipeDefinition) (events : List RecipeEvent) :
    (recipes.meetAll events).forget =
      (recipes.offerAll (events.flatMap RecipeEvent.offers)).forget := by
  induction events generalizing recipes with
  | nil => rfl
  | cons event rest ih =>
    have later := ih (recipes.meet event)
    rw [offerAll_forget, meet_forget] at later
    rw [List.flatMap_cons, offerAll_append, offerAll_forget]
    exact later

/-- No two recipes of a registry have one number, whatever happened to it. -/
theorem nodup_ids_meetAll (base : Nat) (events : List RecipeEvent) :
    (((empty base).meetAll events).entries.map Entry.id).Nodup := by
  have indexed : ((empty base).meetAll events).Indexed :=
    (tallied_offerAll base _).indexed.of_forget_eq (meetAll_forget (empty base) events)
  exact indexed.nodup_ids fun entry _ => rfl

end Registry

/-! ## What a pass writes -/

/-- An entry with its own record noted, if that is there, and as it is otherwise. -/
def Entry.foundIn {δ : Type} (contains : Nat → Bool) (entry : Entry δ) : Entry δ :=
  if contains entry.id then { entry with materialized := some entry.id } else entry

section Pass

variable {ids : IdRanges} {items : Registry ItemDefinition}

/-- A step leaves every record but that of its recipe there or absent. -/
theorem recipeStep_contains_of_ne {entry : Entry RecipeDefinition} {tables : Tables}
    {done : Step Tables} (ok : recipeStep ids items entry tables = .ok done) {id : Nat}
    (other : id ≠ entry.id) : done.state.recipes.contains id = tables.recipes.contains id := by
  cases recipeTurn_of_ok ok with
  | present => rfl
  | made absent plan planned =>
    refine (Table.contains_set _ _ _ _).trans ?_
    rw [planRecipe_id planned, beq_false_of_ne other.symm, Bool.false_or]

/-- A step that does not fail stands for its recipe with the record of the recipe. -/
theorem recipeStep_record {entry : Entry RecipeDefinition} {tables : Tables} {done : Step Tables}
    (ok : recipeStep ids items entry tables = .ok done) : done.record = entry.id := by
  cases recipeTurn_of_ok ok <;> rfl

/-- A recipe whose step fails is not in the table. -/
theorem absent_of_recipeStep_error {entry : Entry RecipeDefinition} {tables : Tables}
    {halt : Halt Tables} (failed : recipeStep ids items entry tables = .error halt) :
    tables.recipes.contains entry.id = false := by
  have turn := recipeStep_turn ids items entry tables
  rw [failed] at turn
  cases turn with
  | failed absent => exact absent

end Pass

/-- After a pass the recipes that are in the table have their own records noted, and nothing changed
for the others. -/
theorem entries_recipePass (ids : IdRanges) (items : Registry ItemDefinition)
    {entries : List (Entry RecipeDefinition)} (distinct : (entries.map Entry.id).Nodup)
    (tables : Tables) :
    (runPass (recipeStep ids items) entries tables).entries =
      entries.map (Entry.foundIn
        (runPass (recipeStep ids items) entries tables).state.recipes.contains) := by
  induction entries generalizing tables with
  | nil => rfl
  | cons entry rest ih =>
    obtain ⟨alone, distinct⟩ := List.nodup_cons.1 (List.map_cons ▸ distinct)
    cases result : recipeStep ids items entry tables with
    | error halt =>
      -- No later recipe has the number, so the record stays absent.
      have absent : (runPass (recipeStep ids items) rest tables).state.recipes.contains entry.id
          = false := by
        refine runPass_keeps (fun state : Tables => state.recipes.contains entry.id = false)
          (fun later member state done ok before => ?_) (absent_of_recipeStep_error result)
        have other : entry.id ≠ later.id := fun same => alone (same ▸ List.mem_map_of_mem member)
        rw [recipeStep_contains_of_ne ok other, before]
      rw [runPass_cons_error result, List.map_cons, Entry.foundIn, if_neg (by rw [absent]; simp)]
      exact congrArg (List.cons entry) (ih distinct tables)
    | ok done =>
      have present : (runPass (recipeStep ids items) rest done.state).state.recipes.contains
          entry.id = true :=
        runPass_keeps (fun state : Tables => state.recipes.contains entry.id = true)
          (fun _ _ _ _ ok before => recipeStep_contains ok before) (recipeStep_present result)
      rw [runPass_cons_ok result, List.map_cons, Entry.foundIn, if_pos present,
        recipeStep_record result]
      exact congrArg (List.cons _) (ih distinct done.state)

/-! ## Records set by hand -/

/-- Whether an event sets the record of a recipe by hand. -/
def RecipeEvent.setsRecord : RecipeEvent → Bool
  | .note _ (some _) => true
  | _ => false

namespace Registry

/-- The record last written for each recipe is its own. -/
def NotesOwn (recipes : Registry RecipeDefinition) : Prop :=
  ∀ entry ∈ recipes.entries, ∀ id, entry.materialized = some id → id = entry.id

/-- A recipe that is offered has no record written for it. -/
theorem NotesOwn.accept {recipes : Registry RecipeDefinition} (own : recipes.NotesOwn)
    (package : PackageInfo) (definition : RecipeDefinition) :
    (recipes.accept package definition).NotesOwn := by
  rw [Registry.accept, register]
  by_cases unnamed : Definition.id definition = ""
  · rw [if_pos unnamed]
    exact own
  · rw [if_neg unnamed]
    intro entry member id noted
    rcases mem_place member with rfl | old
    · cases noted
    · exact own entry old id noted

/-- A pass notes the own record of a recipe or leaves what is noted. -/
theorem NotesOwn.afterPass {recipes : Registry RecipeDefinition} (own : recipes.NotesOwn)
    (distinct : (recipes.entries.map Entry.id).Nodup) (ids : IdRanges)
    (items : Registry ItemDefinition) (tables : Tables) :
    (recipes.afterPass ids items tables).NotesOwn := by
  rw [Registry.afterPass, injectRecipes]
  by_cases ready : tables.recipes.isReady = true
  · rw [if_pos ready]
    intro entry member id noted
    have listed := entries_recipePass ids items distinct tables
    dsimp only at member
    rw [listed] at member
    obtain ⟨before, wasThere, rfl⟩ := List.mem_map.1 member
    rw [Entry.foundIn] at noted ⊢
    split at noted
    · rename_i present
      rw [if_pos present]
      exact (Option.some.inj noted).symm
    · rename_i absent
      rw [if_neg absent]
      exact own before wasThere id noted
  · rw [if_neg ready]
    exact own

/-- Clearing what is noted for a recipe leaves what is noted for the others. -/
theorem NotesOwn.clear {recipes : Registry RecipeDefinition} (own : recipes.NotesOwn)
    (key : String) : (recipes.setMaterialized key none).NotesOwn := by
  intro entry member id noted
  obtain ⟨before, wasThere, rfl⟩ := List.mem_map.1 member
  by_cases cleared : before.key = key
  · rw [if_pos cleared] at noted
    cases noted
  · rw [if_neg cleared] at noted ⊢
    exact own before wasThere id noted

/-- Where no record was set by hand, the record last written for each recipe is its own. -/
theorem notesOwn_meetAll (base : Nat) {events : List RecipeEvent}
    (written : ∀ event ∈ events, event.setsRecord = false) :
    ((empty base).meetAll events).NotesOwn := by
  induction events using List.reverseRecOn with
  | nil => exact fun entry member => nomatch member
  | append_singleton events event ih =>
    have own := ih fun earlier member => written earlier (List.mem_append_left _ member)
    have last := written event (by simp)
    rw [meetAll, List.foldl_append]
    cases event with
    | offer offer => exact own.accept offer.package offer.definition
    | inject ids items tables =>
      exact own.afterPass (nodup_ids_meetAll base events) ids items tables
    | note key record =>
      cases record with
      | none => exact own.clear key
      | some id => cases last

end Registry

/-! ## Teaching -/

/-- An entry teaches the record that is noted for it, if it unlocks by itself and the table has the
record. -/
def Entry.Teaches (recipes : Table RecipeRecord) (entry : Entry RecipeDefinition) (id : Nat) :
    Prop :=
  entry.definition.autoUnlock = true ∧ entry.materialized = some id ∧ recipes.contains id = true

/-- An entry teaches one record at most. -/
theorem Entry.Teaches.unique {recipes : Table RecipeRecord} {entry : Entry RecipeDefinition}
    {id other : Nat} (teaches : entry.Teaches recipes id) (teaches' : entry.Teaches recipes other) :
    id = other :=
  Option.some.inj (teaches.2.1.symm.trans teaches'.2.1)

section Unlocking

variable (recipes : Table RecipeRecord)

/-- A step of teaching adds the record that its entry teaches, if it is not known, and counts it. -/
theorem unlockStep_cases (taught : Nat × IdMap Unit) (entry : Entry RecipeDefinition) :
    (∃ id, entry.Teaches recipes id ∧ unlockStep recipes taught entry =
      if taught.2.contains id then taught else (taught.1 + 1, taught.2.insert id ())) ∨
    ((∀ id, ¬ entry.Teaches recipes id) ∧ unlockStep recipes taught entry = taught) := by
  rw [unlockStep]
  cases unlocks : entry.definition.autoUnlock with
  | false =>
    refine .inr ⟨fun id teaches => ?_, rfl⟩
    rw [Entry.Teaches, unlocks] at teaches
    cases teaches.1
  | true =>
    cases held : entry.materializedIn? recipes.contains with
    | none =>
      refine .inr ⟨fun id teaches => ?_, rfl⟩
      have found : entry.materializedIn? recipes.contains = some id :=
        Option.filter_eq_some_iff.2 ⟨teaches.2.1, teaches.2.2⟩
      rw [held] at found
      cases found
    | some id => exact .inl ⟨id, ⟨unlocks, Option.filter_eq_some_iff.1 held⟩, rfl⟩

/-- After a step the records known before are known, and the one that its entry teaches. -/
theorem contains_unlockStep (taught : Nat × IdMap Unit) (entry : Entry RecipeDefinition)
    (id : Nat) : (unlockStep recipes taught entry).2.contains id = true ↔
      taught.2.contains id = true ∨ entry.Teaches recipes id := by
  rcases unlockStep_cases recipes taught entry with ⟨new, teaches, step⟩ | ⟨none, step⟩
  · have only : entry.Teaches recipes id ↔ new = id :=
      ⟨fun other => teaches.unique other, fun same => same ▸ teaches⟩
    rw [step, only]
    by_cases known : taught.2.contains new = true
    · rw [if_pos known]
      exact ⟨.inl, fun either => either.elim (fun before => before) fun same => same ▸ known⟩
    · rw [if_neg known, IdMap.contains_insert, Bool.or_eq_true, beq_iff_eq, or_comm]
  · rw [step]
    exact ⟨.inl, fun either => either.resolve_right (none id)⟩

/-- A step counts as many records as the book gains. -/
theorem size_unlockStep (taught : Nat × IdMap Unit) (entry : Entry RecipeDefinition) :
    (unlockStep recipes taught entry).1 + taught.2.size =
      taught.1 + (unlockStep recipes taught entry).2.size := by
  rcases unlockStep_cases recipes taught entry with ⟨new, _, step⟩ | ⟨_, step⟩
  · rw [step]
    by_cases known : taught.2.contains new = true
    · rw [if_pos known]
    · have absent : taught.2.get? new = none := by simpa [IdMap.contains] using known
      rw [if_neg known]
      dsimp only
      rw [IdMap.size_insert absent]
      omega
  · rw [step]

/-- A step does nothing if the record that its entry teaches is known. -/
theorem unlockStep_of_known {taught : Nat × IdMap Unit} {entry : Entry RecipeDefinition}
    (known : ∀ id, entry.Teaches recipes id → taught.2.contains id = true) :
    unlockStep recipes taught entry = taught := by
  rcases unlockStep_cases recipes taught entry with ⟨new, teaches, step⟩ | ⟨_, step⟩
  · rw [step, if_pos (known new teaches)]
  · exact step

variable (entries : List (Entry RecipeDefinition)) (taught : Nat × IdMap Unit)

/-- After teaching the records that were known before are known, and those that entries teach. -/
theorem contains_unlockEach (id : Nat) :
    (entries.foldl (unlockStep recipes) taught).2.contains id = true ↔
      taught.2.contains id = true ∨ ∃ entry ∈ entries, entry.Teaches recipes id := by
  induction entries generalizing taught with
  | nil => simp
  | cons entry rest ih =>
    rw [List.foldl_cons, ih, contains_unlockStep, or_assoc]
    simp only [List.mem_cons, exists_eq_or_imp]

/-- Teaching counts as many records as the book gains. -/
theorem size_unlockEach :
    (entries.foldl (unlockStep recipes) taught).1 + taught.2.size =
      taught.1 + (entries.foldl (unlockStep recipes) taught).2.size := by
  induction entries generalizing taught with
  | nil => rfl
  | cons entry rest ih =>
    have first := size_unlockStep recipes taught entry
    have later := ih (unlockStep recipes taught entry)
    rw [List.foldl_cons]
    omega

/-- Teaching does nothing if the records that entries teach are known. -/
theorem unlockEach_of_known
    (known : ∀ entry ∈ entries, ∀ id, entry.Teaches recipes id → taught.2.contains id = true) :
    entries.foldl (unlockStep recipes) taught = taught := by
  induction entries with
  | nil => rfl
  | cons entry rest ih =>
    rw [List.foldl_cons, unlockStep_of_known recipes (known entry List.mem_cons_self)]
    exact ih fun other member => known other (List.mem_cons_of_mem _ member)

end Unlocking

/-- An entry unlocks its own record, if it unlocks by itself and the table has the record. -/
def Entry.Unlocks (recipes : Table RecipeRecord) (entry : Entry RecipeDefinition) (id : Nat) :
    Prop :=
  entry.definition.autoUnlock = true ∧ entry.id = id ∧ recipes.contains id = true

/-- An entry unlocks a record in the place of its own, if it unlocks by itself and the table has not
its own record but the one that is noted for it. -/
def Entry.UnlocksNoted (recipes : Table RecipeRecord) (entry : Entry RecipeDefinition) (id : Nat) :
    Prop :=
  entry.definition.autoUnlock = true ∧ recipes.contains entry.id = false ∧
    entry.materialized = some id ∧ recipes.contains id = true

/-- After a pass an entry teaches its own record, or the one noted for it before if its own is not
there. -/
theorem teaches_foundIn {recipes : Table RecipeRecord} {entry : Entry RecipeDefinition} {id : Nat} :
    (entry.foundIn recipes.contains).Teaches recipes id ↔
      entry.Unlocks recipes id ∨ entry.UnlocksNoted recipes id := by
  rw [Entry.Teaches, Entry.foundIn, Entry.Unlocks, Entry.UnlocksNoted]
  cases present : recipes.contains entry.id with
  | true => simp
  | false =>
    have absent : ¬ (entry.id = id ∧ recipes.contains id = true) := by
      rintro ⟨rfl, there⟩
      rw [present] at there
      cases there
    simp [absent]

/-- Whatever happened to a registry of recipes, a pass over a table that is ready succeeds, and what
is taught then adds to a book the numbers of the recipes that unlock by themselves and are in the
table, and of a recipe that is not in the table the record noted for it, which is another one only
where it was set by hand. The answer is how much the book has grown, asking again changes nothing,
and whatever table the host has later, no record is added that it does not have. -/
theorem unlocking_teaches_injected (base : Nat) (events : List RecipeEvent) (ids : IdRanges)
    (items : Registry ItemDefinition) {tables : Tables} (ready : tables.recipes.isReady = true)
    (book : IdMap Unit) :
    let recipes := (Registry.empty base).meetAll events
    ∃ pass, injectRecipes ids recipes items tables = .ok pass ∧
      let injected := { recipes with entries := pass.entries }
      let table := pass.state.recipes
      let taught := unlockRecipes injected table book
      (∀ id, taught.2.contains id = true ↔ book.contains id = true ∨
        ∃ entry ∈ recipes.entries, entry.Unlocks table id ∨ entry.UnlocksNoted table id) ∧
      ((∀ event ∈ events, event.setsRecord = false) →
        ∀ id, taught.2.contains id = true ↔ book.contains id = true ∨
          ∃ entry ∈ recipes.entries, entry.Unlocks table id) ∧
      taught.1 + book.size = taught.2.size ∧
      unlockRecipes injected table taught.2 = (0, taught.2) ∧
      ∀ (later : Table RecipeRecord) (known : IdMap Unit) (id : Nat),
        (unlockRecipes injected later known).2.contains id = true →
          known.contains id = true ∨ later.contains id = true := by
  intro recipes
  refine ⟨runPass (recipeStep ids items) recipes.entries tables, if_pos ready, ?_⟩
  intro injected table taught
  have entries : injected.entries = recipes.entries.map (Entry.foundIn table.contains) :=
    entries_recipePass ids items (Registry.nodup_ids_meetAll base events) tables
  have known (id : Nat) : taught.2.contains id = true ↔ book.contains id = true ∨
      ∃ entry ∈ recipes.entries, entry.Unlocks table id ∨ entry.UnlocksNoted table id := by
    refine (contains_unlockEach table injected.entries (0, book) id).trans (or_congr_right ?_)
    rw [entries]
    constructor
    · rintro ⟨_, member, teaches⟩
      obtain ⟨entry, there, rfl⟩ := List.mem_map.1 member
      exact ⟨entry, there, teaches_foundIn.1 teaches⟩
    · rintro ⟨entry, there, unlocks⟩
      exact ⟨_, List.mem_map_of_mem there, teaches_foundIn.2 unlocks⟩
  refine ⟨known, fun written id => ?_, ?_, ?_, fun later known id added => ?_⟩
  · have own := Registry.notesOwn_meetAll base written
    refine (known id).trans (or_congr_right (exists_congr fun entry => and_congr_right ?_))
    intro member
    refine or_iff_left fun noted => ?_
    obtain ⟨_, absent, isNoted, there⟩ := noted
    rw [← own entry member id isNoted, there] at absent
    cases absent
  · have sizes := size_unlockEach table injected.entries (0, book)
    rw [Nat.zero_add] at sizes
    exact sizes
  · refine unlockEach_of_known table injected.entries (0, taught.2) ?_
    intro entry member id teaches
    have among : ∃ entry ∈ injected.entries, entry.Teaches table id := ⟨entry, member, teaches⟩
    exact (contains_unlockEach table injected.entries (0, book) id).2 (.inr among)
  · refine ((contains_unlockEach later injected.entries (0, known) id).1 added).imp_right ?_
    rintro ⟨entry, _, teaches⟩
    exact teaches.2.2

/-- A kitchen offers a soup, a secret sauce that does not unlock by itself, and a pie of an item
that nobody knows, and a pass is tried. -/
def kitchenEvents : List RecipeEvent :=
  [.offer ⟨.inMemory "kitchen", { id := "soup", result := .id 5 }⟩,
    .offer ⟨.inMemory "kitchen", { id := "sauce", result := .id 5, autoUnlock := false }⟩,
    .offer ⟨.inMemory "kitchen", { id := "pie", result := .name "unicorn" }⟩,
    .inject {} (.empty 60000) Host.seeded.tables]

/-- Of what the kitchen offers the soup is taught, once, and nothing else. -/
theorem kitchen_teaches_soup :
    let recipes := (Registry.empty 51000).meetAll kitchenEvents
    Host.seeded.tables.recipes.isReady = true ∧
      (∀ event ∈ kitchenEvents, event.setsRecord = false) ∧
      ∃ pass, injectRecipes {} recipes (.empty 60000) Host.seeded.tables = .ok pass ∧
        let injected := { recipes with entries := pass.entries }
        let taught := unlockRecipes injected pass.state.recipes .empty
        taught.2.contains 51000 = true ∧ taught.2.contains 51001 = false ∧
          taught.2.contains 51002 = false ∧ taught.1 = taught.2.size ∧
          unlockRecipes injected pass.state.recipes taught.2 = (0, taught.2) := by
  intro recipes
  have ready : Host.seeded.tables.recipes.isReady = true := by decide
  have written : ∀ event ∈ kitchenEvents, event.setsRecord = false := by decide
  obtain ⟨pass, ok, _, exactly, size, again, _⟩ :=
    unlocking_teaches_injected 51000 kitchenEvents {} (.empty 60000) ready .empty
  obtain ⟨entry, member, auto, number⟩ : ∃ entry ∈ recipes.entries,
      entry.definition.autoUnlock = true ∧ entry.id = 51000 := by decide
  obtain rfl := Except.ok.inj ok
  have known := (exactly written 51000).2
    (.inr ⟨entry, member, auto, number, by decide⟩)
  exact ⟨ready, written, _, ok, known, by decide, by decide, size, again⟩

/-- A kitchen offers a pie of an item that nobody knows, and notes a record of the host for it. -/
def swapEvents : List RecipeEvent :=
  [.offer ⟨.inMemory "kitchen", { id := "pie", result := .name "unicorn" }⟩,
    .note "kitchen:pie" (some 100)]

/-- The record of the host is taught for the pie, although no recipe of the kitchen is in the
table. -/
theorem kitchen_teaches_another :
    let recipes := (Registry.empty 51000).meetAll swapEvents
    Host.seeded.tables.recipes.isReady = true ∧
      ∃ pass, injectRecipes {} recipes (.empty 60000) Host.seeded.tables = .ok pass ∧
        (∀ entry ∈ recipes.entries, pass.state.recipes.contains entry.id = false) ∧
        let injected := { recipes with entries := pass.entries }
        let taught := unlockRecipes injected pass.state.recipes .empty
        taught.1 = 1 ∧ taught.2.contains 100 = true :=
  ⟨by decide, _, rfl, by decide⟩

end Modpack
