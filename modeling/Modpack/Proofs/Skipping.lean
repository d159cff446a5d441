import Modpack.Proofs.History
import Modpack.Proofs.Idempotence

/-!
# When an injection is skipped

An injection is skipped once one has run and the probe finds nothing amiss. The probe covers every
patch, the first item and the first recipe; whether anything is left to do is then a matter of the
other new items and recipes. They are all done when both passes ran without a failure and since
then nothing was registered and the host left its tables alone. A package registered after the
first injection is not covered: its records stay out until the probe finds something else amiss.
-/
namespace Modpack

/-! ## What the probe does not look at -/

/-- The new items and the recipes after the first of each kind have nothing left to do. -/
structure Engine.RestDone (engine : Engine) (tables : Tables) : Prop where
  /-- Every new item but the first is there, or its base is missing. -/
  items : ∀ entry ∈ engine.items.entries, entry.isPatch = false →
    engine.items.firstAllocated? ≠ some entry.id → entry.ItemDone tables.items
  /-- Every recipe but the first is there, or something it needs is missing. -/
  recipes : ∀ entry ∈ engine.recipes.entries,
    engine.recipes.firstAllocated? ≠ some entry.id →
      entry.RecipeDone engine.ids engine.items tables.recipes

/-- Where the engine finds nothing amiss, the tables are settled exactly when the rest is done. -/
theorem Engine.settled_iff_restDone {engine : Engine} {tables : Tables}
    (fine : engine.needsInjection tables = false) :
    engine.Settled tables ↔ engine.RestDone tables := by
  obtain ⟨firstItem, firstRecipe, patches⟩ := (engine.needsInjection_eq_false_iff tables).1 fine
  constructor
  · intro settled
    exact ⟨fun entry member makes _ => settled.items entry member makes,
      fun entry member _ => settled.recipes entry member⟩
  · intro rest
    refine ⟨patches, ?_, ?_⟩
    · intro entry member makes
      by_cases first : engine.items.firstAllocated? = some entry.id
      · exact .inl (firstItem entry.id first)
      · exact rest.items entry member makes first
    · intro entry member
      by_cases first : engine.recipes.firstAllocated? = some entry.id
      · exact .inl (firstRecipe entry.id first)
      · exact rest.recipes entry member first

/-- Where both passes run, they put nothing and patch nothing exactly when the tables are
settled. -/
theorem Engine.report_idle_iff (engine : Engine) (tables : Tables) :
    ((engine.fullInjection tables).report.injected = 0 ∧
        (engine.fullInjection tables).report.patched = 0) ↔ engine.Settled tables :=
  ⟨fun idle => Engine.settled_of_report idle.1 idle.2, fun settled => settled.idle.2⟩

/-- The recipe pass only adds to the tables. -/
theorem Engine.recipePass_grows (engine : Engine) (tables : Tables) :
    tables.GrowsTo (engine.recipePass tables).state :=
  runPass_keeps tables.GrowsTo (fun _ _ _ _ ok grown => grown.trans (recipeStep_grows ok))
    (.refl tables)

/-! ## Histories after a full injection -/

/-- Every new item and every recipe of the engine is in its table. -/
structure World.Stocked (world : World) : Prop where
  /-- The new items. -/
  items : ∀ entry ∈ world.engine.items.entries, entry.isPatch = false →
    world.host.tables.items.contains entry.id = true
  /-- The recipes. -/
  recipes : ∀ entry ∈ world.engine.recipes.entries,
    world.host.tables.recipes.contains entry.id = true

/-- The event comes to an injection that runs both passes without a failure. -/
structure World.Fills (world : World) (event : Event) : Prop where
  /-- The event is an injection, or a notice of a loaded session that leads to one. -/
  event : event = .call .inject ∨ event = .call (.notify .sessionLoaded) ∧
    world.engine.needsInjection world.host.tables = true
  /-- The item table is ready. -/
  itemsReady : world.host.tables.items.isReady = true
  /-- The recipe table is ready. -/
  recipesReady : world.host.tables.recipes.isReady = true
  /-- The injection is not skipped. -/
  runs : ¬(world.engine.injected = true ∧
    world.engine.needsInjection world.host.tables = false)
  /-- No entry fails. -/
  clean : (world.engine.injectContent world.host.tables).report.failed = 0

/-- The event is a call that registers nothing. -/
def Event.AddsNothing (event : Event) : Prop :=
  ∃ call, event = .call call ∧ call.registered = []

namespace World

variable {world after : World}

/-- Growing tables and the same content keep a world stocked. -/
theorem Stocked.of_grows (stocked : world.Stocked)
    (same : after.engine.SameContent world.engine)
    (grows : world.host.tables.GrowsTo after.host.tables) : after.Stocked := by
  constructor
  · intro entry member makes
    obtain ⟨other, otherMember, forgotten⟩ :=
      Registry.exists_mem_of_forget_eq same.items member
    obtain ⟨id, _, isPatch⟩ := Entry.of_forget_eq forgotten
    rw [← id]
    exact grows.items _ (stocked.items other otherMember (isPatch.trans makes))
  · intro entry member
    obtain ⟨other, otherMember, forgotten⟩ :=
      Registry.exists_mem_of_forget_eq same.recipes member
    obtain ⟨id, _, _⟩ := Entry.of_forget_eq forgotten
    rw [← id]
    exact grows.recipes _ (stocked.recipes other otherMember)

/-- Calls that register nothing keep a world stocked. -/
theorem Stocked.run (stocked : world.Stocked) {events : List Event}
    (nothing : ∀ event ∈ events, event.AddsNothing) : (world.run events).Stocked := by
  induction events generalizing world with
  | nil => exact stocked
  | cons event rest ih =>
    obtain ⟨call, rfl, adds⟩ := nothing event List.mem_cons_self
    have same := step_sameContent (.refl world.engine) (.call call)
    rw [Event.registered, adds] at same
    refine ih (stocked.of_grows same (answer_grows world call)) ?_
    exact fun other member => nothing other (List.mem_cons_of_mem (.call call) member)

/-- An event that comes to a full injection without a failure leaves a stocked world. -/
theorem Fills.stocked {event : Event} (fills : world.Fills event) :
    (world.step event).Stocked := by
  have step : world.step event = world.inject := by
    rcases fills.event with rfl | ⟨rfl, needs⟩
    · rfl
    · have reload : Notification.sessionLoaded.isSessionReload = true := rfl
      rw [World.step, answer, Engine.onAction, if_pos reload, if_pos needs]
      rfl
  have full := Engine.injectContent_of_ready fills.runs fills.itemsReady fills.recipesReady
  have clean := fills.clean
  rw [full, Engine.fullInjection] at clean
  simp only [Report.merge, Nat.add_eq_zero_iff] at clean
  have content := Engine.sameContent_injectContent world.engine world.host.tables
  -- The world whose engine was left alone is stocked already; content does not change.
  have stocked : World.Stocked ⟨world.engine,
      { world.host with tables := (world.engine.fullInjection world.host.tables).tables }⟩ := by
    refine ⟨?_, Engine.recipePass_present clean.2⟩
    intro entry member makes
    refine (Engine.recipePass_grows _ _).items _ ?_
    exact Engine.itemPass_present clean.1 entry member makes
  rw [step, inject]
  refine stocked.of_grows content ?_
  rw [full]
  exact .refl _

end World

/-- Wherever an injection would be skipped, running both passes would put nothing and patch nothing
exactly when the entries the probe does not look at are done. They are after a full injection
without a failure, as long as only calls that register nothing follow. -/
theorem skip_iff_rest_done (ids : IdRanges) (host : Host) (events : List Event) :
    let world := (World.start ids host).run events
    world.host.tables.items.isReady = true → world.host.tables.recipes.isReady = true →
    world.engine.injected = true →
    world.engine.needsInjection world.host.tables = false →
    world.engine.injectContent world.host.tables = ⟨{}, [], world.engine, world.host.tables⟩ ∧
    (∃ items recipes, world.engine.injectItems world.host.tables = .ok items ∧
      items.engine.injectRecipes items.tables = .ok recipes ∧
      ((items.report.merge recipes.report).injected = 0 ∧
          (items.report.merge recipes.report).patched = 0 ↔
        world.engine.RestDone world.host.tables)) ∧
    ∀ earlier event later, events = earlier ++ event :: later →
      ((World.start ids host).run earlier).Fills event →
      (∀ next ∈ later, next.AddsNothing) → world.engine.RestDone world.host.tables := by
  intro world itemsReady recipesReady injected fine
  refine ⟨?_, ?_, ?_⟩
  · rw [Engine.injectContent, injected, fine]
    rfl
  · obtain ⟨items, recipes, first, second, _, report⟩ :=
      world.engine.passes_of_ready itemsReady recipesReady
    refine ⟨items, recipes, first, second, ?_⟩
    rw [report]
    exact (world.engine.report_idle_iff world.host.tables).trans
      (Engine.settled_iff_restDone fine)
  · intro earlier event later split fills nothing
    have stocked : world.Stocked := by
      have run : world = (((World.start ids host).run earlier).step event).run later := by
        change (World.start ids host).run events = _
        rw [split, World.run_append]
        rfl
      rw [run]
      exact fills.stocked.run nothing
    exact ⟨fun entry member makes _ => .inl (stocked.items entry member makes),
      fun entry member _ => .inl (stocked.recipes entry member)⟩

/-- A package with one new item. -/
def early : Package := { info := .inMemory "early", items := [{ id := "jam" }] }

/-- Another package with one new item. -/
def late : Package := { info := .inMemory "late", items := [{ id := "stew" }] }

/-- A history in which nothing is registered after the injection. -/
def earlyEvents : List Event := [.call (.register early), .call .inject, .call .resolveIcons]

/-- After that history the next injection is skipped, rightly. -/
theorem early_is_skipped :
    let world := (World.start {} Host.seeded).run earlyEvents
    world.host.tables.items.isReady = true ∧ world.host.tables.recipes.isReady = true ∧
    world.engine.injected = true ∧ world.engine.needsInjection world.host.tables = false ∧
    world.engine.injectContent world.host.tables = ⟨{}, [], world.engine, world.host.tables⟩ ∧
    (∃ items recipes, world.engine.injectItems world.host.tables = .ok items ∧
      items.engine.injectRecipes items.tables = .ok recipes ∧
      ((items.report.merge recipes.report).injected = 0 ∧
          (items.report.merge recipes.report).patched = 0 ↔
        world.engine.RestDone world.host.tables)) ∧
    ∀ earlier event later, earlyEvents = earlier ++ event :: later →
      ((World.start {} Host.seeded).run earlier).Fills event →
      (∀ next ∈ later, next.AddsNothing) → world.engine.RestDone world.host.tables :=
  ⟨by decide, by decide, by decide, by decide,
    skip_iff_rest_done {} Host.seeded earlyEvents (by decide) (by decide) (by decide)
      (by decide)⟩

/-- A package registered after the first injection is skipped although its item is missing. -/
theorem late_is_skipped :
    let world := (World.start {} Host.seeded).run
      [.call (.register early), .call .inject, .call (.register late)]
    world.engine.injected = true ∧ world.engine.needsInjection world.host.tables = false ∧
      (world.engine.injectContent world.host.tables).report = {} ∧
      (world.engine.fullInjection world.host.tables).report = { injected := 1, skipped := 1 } := by
  decide

end Modpack
