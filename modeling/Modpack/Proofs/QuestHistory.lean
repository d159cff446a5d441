import Mathlib.Data.List.Induction
import Modpack.Proofs.Catalogs
import Modpack.Proofs.History

/-!
# Graphs along a history

Packages are registered, items injected, notifications answered and graphs asked for in any order,
while the host does with its tables and quests whatever it likes. A graph that is asked for is that
of the registered quest, made from the items of some moment since the quest was registered. It is
the graph of now exactly when the items the quest waits for resolve as they did at that moment. An
injection that runs makes all graphs anew, so they stay those of now until items are registered; a
registration of items alone does not.
-/
namespace Modpack

/-! ## Operations of the engine -/

namespace Engine

variable {origin : Entry QuestDefinition → Registry ItemDefinition → Prop}
  {known : QuestDefinition → Prop} {engine : Engine}

/-- Registering a package offers its quests to the catalog. -/
theorem registerPackage_quests (engine : Engine) (package : Package) :
    (engine.registerPackage package).engine.quests =
      engine.quests.acceptAll package.info package.quests := by
  have offered (sofar : Registration) (quests : List QuestDefinition) :
      (registerEach (fun engine => engine.registerQuest package.info) sofar quests).engine =
        { sofar.engine with quests := sofar.engine.quests.acceptAll package.info quests } := by
    rw [registerEach_engine (fun engine quest =>
      { engine with quests := engine.quests.accept package.info quest })]
    · generalize sofar.engine = engine
      induction quests generalizing engine with
      | nil => rfl
      | cons quest rest ih =>
        exact ih { engine with quests := engine.quests.accept package.info quest }
    · intro engine quest
      rw [registerQuest, QuestCatalog.accept]
      cases engine.quests.register package.info quest <;> rfl
  rw [registerPackage]
  simp only [offered, registerRecipes_engine, registerItems_engine]

/-- Registering packages of known quests. -/
theorem registerAll_quests (sound : engine.quests.Sound origin known) {packages : List Package}
    (isKnown : ∀ package ∈ packages, ∀ quest ∈ package.quests, quest.id ≠ "" → known quest) :
    (engine.registerAll packages).quests.Sound origin known := by
  induction packages generalizing engine with
  | nil => exact sound
  | cons package rest ih =>
    refine ih ?_ fun other member => isKnown other (List.mem_cons_of_mem package member)
    rw [registerPackage_quests]
    exact sound.acceptAll package.info (isKnown package List.mem_cons_self)

/-- Registering packages without items leaves the items alone. -/
theorem registerAll_items {packages : List Package}
    (none : ∀ package ∈ packages, package.items = []) :
    (engine.registerAll packages).items = engine.items := by
  induction packages generalizing engine with
  | nil => rfl
  | cons package rest ih =>
    have first : (engine.registerPackage package).engine.items = engine.items := by
      obtain ⟨catalog, same⟩ := registerPackage_engine engine package
      rw [same, none package List.mem_cons_self]
      rfl
    exact (ih fun other member => none other (List.mem_cons_of_mem package member)).trans first

/-- An injection leaves the registered quests alone, and graphs come from the items after it. -/
theorem injectContent_quests (sound : engine.quests.Sound origin known) (tables : Tables)
    (now : ∀ entry ∈ engine.quests.registry.entries,
      origin entry (engine.injectContent tables).engine.items) :
    (engine.injectContent tables).engine.quests.Sound origin known ∧
      (engine.injectContent tables).engine.quests.registry = engine.quests.registry := by
  have turn := injectContent_turn engine tables
  generalize engine.injectContent tables = injection at turn now ⊢
  cases turn with
  | nothing => exact ⟨sound, rfl⟩
  | items | full => exact ⟨sound.compileAll now, rfl⟩

/-- After an injection that runs, all graphs come from the items after it. -/
theorem injectContent_fresh (sound : engine.quests.Sound origin known) {tables : Tables}
    (runs : ¬(engine.injected = true ∧ engine.needsInjection tables = false))
    (ready : tables.items.isReady = true) :
    (engine.injectContent tables).engine.quests.Sound
      (fun _ items => items = (engine.injectContent tables).engine.items) known := by
  cases recipesReady : tables.recipes.isReady with
  | true =>
    rw [injectContent_of_ready runs ready recipesReady]
    exact sound.compileAll fun _ _ => rfl
  | false =>
    have skipped : ¬(engine.injected && !engine.needsInjection tables) = true := by
      simpa using runs
    have unready : (engine.itemPass tables).state.tables.recipes.isReady = false := by
      rw [itemPass_recipes]
      exact recipesReady
    rw [injectContent, if_neg skipped, injectItems_of_ready ready]
    simp only [injectRecipes_of_unready unready]
    exact sound.compileAll fun _ _ => rfl

end Engine

/-! ## Histories -/

/-- Something that happens while graphs may be asked for. -/
inductive QuestEvent where
  /-- The host calls the engine. -/
  | call (call : Call)
  /-- The graph of a quest is asked for. -/
  | graph (quest : String)
  /-- The host becomes another: its tables, quests or belongings change. -/
  | host (host : Host)

/-- The packages an event registers. -/
def QuestEvent.registered : QuestEvent → List Package
  | .call asked => asked.registered
  | _ => []

namespace World

/-- The world after an event. -/
def meet (world : World) : QuestEvent → World
  | .call call => world.answer call
  | .graph quest => { world with engine := (world.engine.questGraph? quest).2 }
  | .host host => { world with host := host }

/-- The world after events, in order. -/
def follow (world : World) (events : List QuestEvent) : World :=
  events.foldl meet world

/-- Following events and then more is following all of them. -/
theorem follow_append (world : World) (earlier later : List QuestEvent) :
    world.follow (earlier ++ later) = (world.follow earlier).follow later :=
  List.foldl_append

/-- A notice of a loaded session leads to an injection if the engine finds something amiss; any
other notification has the quests under way looked at. -/
theorem answer_notify (world : World) (notification : Notification) :
    world.answer (.notify notification) =
      if notification.isSessionReload then
        if world.engine.needsInjection world.host.tables then world.inject else world
      else
        let state := (evaluate world.engine.items notification
          ⟨world.engine.quests, world.host.quests⟩).2
        ⟨{ world.engine with quests := state.catalog },
          { world.host with quests := state.log }⟩ := by
  rw [answer, Engine.onAction]
  by_cases reload : notification.isSessionReload = true
  · rw [if_pos reload, if_pos reload]
    by_cases needs : world.engine.needsInjection world.host.tables = true
    · rw [if_pos needs, if_pos needs]
      rfl
    · rw [if_neg needs, if_neg needs]
  · rw [if_neg reload, if_neg reload]
    rfl

/-- The event comes to an injection that runs. -/
structure Injects (world : World) (event : QuestEvent) : Prop where
  /-- The event is an injection, or a notice of a loaded session that leads to one. -/
  event : event = .call .inject ∨ ∃ notification, event = .call (.notify notification) ∧
    notification.isSessionReload = true ∧ world.engine.needsInjection world.host.tables = true
  /-- The item table is ready. -/
  ready : world.host.tables.items.isReady = true
  /-- The injection is not skipped. -/
  runs : ¬(world.engine.injected = true ∧
    world.engine.needsInjection world.host.tables = false)

variable {world : World} {origin : Entry QuestDefinition → Registry ItemDefinition → Prop}

/-- An event that injects leaves the world after an injection. -/
theorem Injects.meet_eq {event : QuestEvent} (injects : world.Injects event) :
    world.meet event = world.inject := by
  rcases injects.event with rfl | ⟨notification, rfl, reload, needs⟩
  · rfl
  · rw [meet, answer_notify, if_pos reload, if_pos needs]

/-- After an event graphs come from the items after it, or from those they came from before. -/
theorem meet_sound (sound : world.engine.quests.Sound origin fun _ => True) (event : QuestEvent)
    (now : ∀ entry ∈ (world.meet event).engine.quests.registry.entries,
      origin entry (world.meet event).engine.items) :
    (world.meet event).engine.quests.Sound origin fun _ => True := by
  -- What an operation does to the registry is told before it is known what graphs come from.
  have bare := sound.mono fun _ _ _ => trivial
  have registered (packages : List Package) :
      (world.engine.registerAll packages).quests.Sound origin fun _ => True :=
    Engine.registerAll_quests sound fun _ _ _ _ _ => trivial
  have injected (now : ∀ entry ∈ world.inject.engine.quests.registry.entries,
      origin entry world.inject.engine.items) :
      world.inject.engine.quests.Sound origin fun _ => True := by
    have same := (Engine.injectContent_quests bare world.host.tables fun _ _ => trivial).2
    refine (Engine.injectContent_quests sound world.host.tables fun entry member => ?_).1
    exact now entry (same ▸ member)
  cases event with
  | host => exact sound
  | graph quest =>
    refine sound.graph? (fun entry member => now entry ?_) quest
    exact (QuestCatalog.graph?_registry _ _ _).symm ▸ member
  | call call =>
    cases call with
    | register package => exact registered [package]
    | discover packages =>
      rw [meet, answer, Engine.discover_engine]
      exact registered packages
    | inject => exact injected now
    | notify notification =>
      rw [meet, answer_notify] at now ⊢
      by_cases reload : notification.isSessionReload = true
      · rw [if_pos reload] at now ⊢
        by_cases needs : world.engine.needsInjection world.host.tables = true
        · rw [if_pos needs] at now ⊢
          exact injected now
        · rw [if_neg needs]
          exact sound
      · rw [if_neg reload] at now ⊢
        let state : QuestState := ⟨world.engine.quests, world.host.quests⟩
        have sound' : state.catalog.Sound origin fun _ => True := sound
        have bare' : state.catalog.Sound (fun _ _ => True) fun _ => True := bare
        have same : (evaluate world.engine.items notification state).2.catalog.registry =
            state.catalog.registry := (bare'.evaluate (fun _ _ => trivial) notification).2
        refine (sound'.evaluate (fun entry member => now entry ?_) notification).1
        exact same.symm ▸ member
    | display id =>
      rw [meet, answer_display]
      exact sound
    | resolveIcons =>
      rw [meet, answer_resolveIcons]
      exact sound
    | unlockRecipes => exact sound

/-! ## Moments of a history -/

/-- At some moment of a history the quest was registered and these were the items. -/
def Moment (start : World) (events : List QuestEvent) (entry : Entry QuestDefinition)
    (items : Registry ItemDefinition) : Prop :=
  ∃ earlier later, events = earlier ++ later ∧
    entry ∈ (start.follow earlier).engine.quests.registry.entries ∧
    items = (start.follow earlier).engine.items

/-- After a history every graph comes from the items of a moment at which its quest was
registered. -/
theorem follow_sound (ids : IdRanges) (host : Host) (events : List QuestEvent) :
    ((start ids host).follow events).engine.quests.Sound ((start ids host).Moment events)
      fun _ => True := by
  induction events using List.reverseRecOn with
  | nil => exact QuestCatalog.sound_empty _
  | append_singleton events event ih =>
    have next : (start ids host).follow (events ++ [event]) =
        ((start ids host).follow events).meet event := follow_append _ _ _
    rw [next]
    -- The moments of before are moments still, and now is one more.
    refine meet_sound (ih.mono fun entry items moment => ?_) event fun entry member => ?_
    · obtain ⟨earlier, later, rfl, rest⟩ := moment
      exact ⟨earlier, later ++ [event], List.append_assoc _ _ _, rest⟩
    · rw [← next] at member ⊢
      exact ⟨events ++ [event], [], (List.append_nil _).symm, member, rfl⟩

/-! ## Graphs of now -/

/-- Every graph that is kept is the one that would be made now. -/
def Fresh (world : World) : Prop :=
  world.engine.quests.Sound (fun entry items => entry.graph items = entry.graph world.engine.items)
    fun _ => True

/-- An injection that runs leaves only graphs of now. -/
theorem Injects.fresh {event : QuestEvent} (injects : world.Injects event)
    (sound : world.engine.quests.Sound origin fun _ => True) : (world.meet event).Fresh := by
  rw [injects.meet_eq]
  refine (Engine.injectContent_fresh sound injects.runs injects.ready).mono ?_
  intro entry items same
  rw [same]
  rfl

/-- An event that registers no items keeps them but for the records last written. -/
theorem meet_items (world : World) {event : QuestEvent}
    (none : ∀ package ∈ event.registered, package.items = []) :
    (world.meet event).engine.items.forget = world.engine.items.forget := by
  cases event with
  | host | graph => rfl
  | call call =>
    have same := step_sameContent (.refl world.engine) (.call call)
    exact same.items.trans (congrArg Registry.forget (Engine.registerAll_items none))

/-- Graphs of now stay so in an event that registers no items. -/
theorem Fresh.meet (fresh : world.Fresh) {event : QuestEvent}
    (none : ∀ package ∈ event.registered, package.items = []) : (world.meet event).Fresh := by
  have same := world.meet_items none
  refine meet_sound (fresh.mono fun entry items now => now.trans ?_) event fun _ _ => rfl
  rw [entry.graph_eq_iff]
  intro stage _ _ wait _ _ reference _
  exact Registry.resolveItem?_of_forget_eq same.symm _ _

/-- Graphs of now stay so in events that register no items. -/
theorem Fresh.follow (fresh : world.Fresh) {events : List QuestEvent}
    (none : ∀ event ∈ events, ∀ package ∈ event.registered, package.items = []) :
    (world.follow events).Fresh := by
  induction events generalizing world with
  | nil => exact fresh
  | cons event rest ih =>
    exact ih (fresh.meet (none event List.mem_cons_self)) fun other member =>
      none other (List.mem_cons_of_mem event member)

end World

/-- After any history a graph is given exactly for the quests that are registered. It is that of
the quest with the items of a moment at which the quest was registered, so it is the graph of now
exactly when the items the quest waits for resolve now as they did then; and it is the graph of now
if no items were registered since an injection that ran. -/
theorem quest_graph_iff (ids : IdRanges) (host : Host) (events : List QuestEvent)
    (quest : String) :
    let start := World.start ids host
    let now := start.follow events
    let answer := (now.engine.questGraph? quest).1
    (answer = none ↔ now.engine.quests.registry.byKey? quest = none) ∧
    ∀ entry, now.engine.quests.registry.byKey? quest = some entry →
      (∃ earlier later, events = earlier ++ later ∧
        let past := start.follow earlier
        entry ∈ past.engine.quests.registry.entries ∧
        answer = some (entry.graph past.engine.items) ∧
        (answer = some (entry.graph now.engine.items) ↔
          entry.WaitsAlike past.engine.items now.engine.items)) ∧
      ∀ earlier event later, events = earlier ++ event :: later →
        (start.follow earlier).Injects event →
        (∀ next ∈ later, ∀ package ∈ next.registered, package.items = []) →
        answer = some (entry.graph now.engine.items) := by
  intro start now answer
  have sound : now.engine.quests.Sound (start.Moment events) fun _ => True :=
    World.follow_sound ids host events
  obtain ⟨unregistered, given⟩ := sound.graph?_answer now.engine.items quest
  refine ⟨unregistered, fun entry found => ⟨?_, ?_⟩⟩
  · obtain ⟨items, moment, same⟩ := given entry found
    have registered := (sound.indexed.byKey?_eq_some_iff.1 found).1
    have moment : start.Moment events entry items := by
      rcases moment with before | rfl
      · exact before
      · exact ⟨events, [], (List.append_nil _).symm, registered, rfl⟩
    obtain ⟨earlier, later, split, member, rfl⟩ := moment
    refine ⟨earlier, later, split, member, same, ?_⟩
    rw [← entry.graph_eq_iff, ← Option.some.injEq (entry.graph _)]
    exact Eq.congr_left same
  · rintro earlier event later split injects none
    have fresh : now.Fresh := by
      have run : now = ((start.follow earlier).meet event).follow later := by
        change start.follow events = _
        rw [split, World.follow_append]
        rfl
      rw [run]
      exact (injects.fresh (World.follow_sound ids host earlier)).follow none
    obtain ⟨items, current, same⟩ := fresh.graph?_answer now.engine.items quest |>.2 entry found
    refine Eq.trans same (congrArg some ?_)
    rcases current with current | rfl
    · exact current
    · rfl

/-- A quest that waits for three of an item. -/
def cook : QuestDefinition :=
  { id := "cook"
    stages := [{ id := "peel", kind := "wait",
                 wait := some { kind := "item", item := some (.name "onion"), count := 3 } }] }

/-- A package with the item and the quest. -/
def soup : Package :=
  { info := .inMemory "soup", items := [{ id := "onion" }], quests := [cook] }

/-- A history after which the graphs are those of now. -/
def soupEvents : List QuestEvent := [.call (.register soup), .call .inject]

/-- After that history the graph of the quest is the one of now. -/
theorem soup_graph_is_fresh :
    let now := (World.start {} Host.seeded).follow soupEvents
    ((World.start {} Host.seeded).follow [.call (.register soup)]).Injects (.call .inject) ∧
    ∃ entry, now.engine.quests.registry.byKey? "soup:cook" = some entry ∧
      (now.engine.questGraph? "soup:cook").1 = some (entry.graph now.engine.items) := by
  intro now
  have injects : ((World.start {} Host.seeded).follow [.call (.register soup)]).Injects
      (.call .inject) := ⟨.inl rfl, by decide, by decide⟩
  refine ⟨injects, ⟨"soup:cook", 70000, soup.info, cook, none⟩, rfl, ?_⟩
  exact ((quest_graph_iff {} Host.seeded soupEvents "soup:cook").2 _ rfl).2
    [.call (.register soup)] (.call .inject) [] rfl injects (by simp)

/-- The package without its quest. -/
def onions : Package := { soup with quests := [] }

/-- Once the item is registered again the graph that is kept waits for a number that is no longer
the item's, while a graph made now would wait for the new one. -/
theorem soup_graph_is_stale :
    let now := (World.start {} Host.seeded).follow
      (soupEvents ++ [.call (.register onions)])
    let waits := fun graph : QuestGraph => graph.nodes.map QuestNode.waitCondition?
    now.engine.items.idOf? "soup:onion" = some 60001 ∧
      (now.engine.questGraph? "soup:cook").1.map waits = some [some (.atLeast 60000 3)] ∧
      (now.engine.quests.registry.byKey? "soup:cook").map (fun entry =>
        waits (entry.graph now.engine.items)) = some [some (.atLeast 60001 3)] := by
  decide

end Modpack
