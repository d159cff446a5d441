import Modpack.Proofs.Engines

/-!
# Histories of an engine and its host

A world is an engine with the host it serves. Calls are what the host asks of the engine; events
are calls and what the host does to its own tables in between: it drops and rebuilds them, or
takes single records out. Calls only add to the tables. After any history the engine has the
content of an engine that was only given the packages registered in it, in the same order.
-/
namespace Modpack

/-- An engine and the host it serves. -/
structure World where
  /-- The engine. -/
  engine : Engine
  /-- The host. -/
  host : Host

/-- What the host asks of the engine. -/
inductive Call where
  /-- Register a package. -/
  | register (package : Package)
  /-- Register packages in order. -/
  | discover (packages : List Package)
  /-- Inject items and recipes. -/
  | inject
  /-- React to a notification. -/
  | notify (notification : Notification)
  /-- Prepare an item that is about to be shown. -/
  | display (id : Nat)
  /-- Copy every missing icon that can be copied. -/
  | resolveIcons
  /-- Teach the player the recipes that unlock by themselves. -/
  | unlockRecipes

/-- Something that happens to the world. -/
inductive Event where
  /-- The host calls the engine. -/
  | call (call : Call)
  /-- The host drops and rebuilds its tables. -/
  | reload
  /-- The host takes an item record out. -/
  | removeItem (id : Nat)
  /-- The host takes a recipe record out. -/
  | removeRecipe (id : Nat)

/-- The packages a call registers. -/
def Call.registered : Call → List Package
  | register package => [package]
  | discover packages => packages
  | _ => []

/-- The packages an event registers. -/
def Event.registered : Event → List Package
  | .call asked => asked.registered
  | _ => []

/-! ## Tables only grow -/

/-- Every record of some tables is still there in later ones. -/
structure Tables.GrowsTo (before after : Tables) : Prop where
  /-- The items. -/
  items : ∀ id, before.items.contains id = true → after.items.contains id = true
  /-- The recipes. -/
  recipes : ∀ id, before.recipes.contains id = true → after.recipes.contains id = true

/-- Tables grow to themselves. -/
theorem Tables.GrowsTo.refl (tables : Tables) : tables.GrowsTo tables :=
  ⟨fun _ there => there, fun _ there => there⟩

/-- Growing twice is growing. -/
theorem Tables.GrowsTo.trans {first middle last : Tables} (left : first.GrowsTo middle)
    (right : middle.GrowsTo last) : first.GrowsTo last :=
  ⟨fun id there => right.items id (left.items id there),
    fun id there => right.recipes id (left.recipes id there)⟩

/-- A step over an item only adds to the tables. -/
theorem itemStep_grows {ids : IdRanges} {entry : Entry ItemDefinition} {state : ItemState}
    {done : Step ItemState} (ok : itemStep ids entry state = .ok done) :
    state.tables.GrowsTo done.state.tables := by
  refine ⟨fun id there => itemStep_contains ok there, fun id there => ?_⟩
  rw [itemStep_recipes ok]
  exact there

/-- Trying to copy an icon takes no record out. -/
theorem retryIcon_grows (id : Nat) (state : ItemState) :
    state.tables.GrowsTo (retryIcon id state).2.tables := by
  have turn := retryIcon_turn id state
  generalize retryIcon id state = tried at turn ⊢
  cases turn with
  | nothing => exact .refl _
  | copied =>
    exact ⟨fun other there => Table.contains_set_of_contains there _ _, fun other there => there⟩

/-- A step over a recipe only adds to the tables. -/
theorem recipeStep_grows {ids : IdRanges} {items : Registry ItemDefinition}
    {entry : Entry RecipeDefinition} {tables : Tables} {done : Step Tables}
    (ok : recipeStep ids items entry tables = .ok done) : tables.GrowsTo done.state := by
  refine ⟨fun id there => ?_, fun id there => recipeStep_contains ok there⟩
  rw [recipeStep_items ok]
  exact there

namespace World

/-- The world before anything happened: an engine without content, and some host. -/
def start (ids : IdRanges) (host : Host) : World := ⟨.empty ids, host⟩

/-- The world after an injection. -/
def inject (world : World) : World :=
  let injection := world.engine.injectContent world.host.tables
  ⟨injection.engine, { world.host with tables := injection.tables }⟩

/-- The world after a call. -/
def answer (world : World) : Call → World
  | .register package => { world with engine := (world.engine.registerPackage package).engine }
  | .discover packages => { world with engine := (world.engine.discover packages).engine }
  | .inject => world.inject
  | .notify notification =>
    let reaction := world.engine.onAction notification world.host
    ⟨reaction.engine, reaction.host⟩
  | .display id =>
    let shown := world.engine.displayItem id world.host.tables
    ⟨shown.2.1, { world.host with tables := shown.2.2 }⟩
  | .resolveIcons =>
    let resolved := world.engine.resolveIcons world.host.tables
    ⟨resolved.2.1, { world.host with tables := resolved.2.2 }⟩
  | .unlockRecipes => ⟨world.engine, (world.engine.unlockRecipes world.host).2⟩

/-- The world after an event. -/
def step (world : World) : Event → World
  | .call call => world.answer call
  | .reload => { world with host := world.host.reload }
  | .removeItem id =>
    { world with host.tables.items := world.host.tables.items.remove id }
  | .removeRecipe id =>
    { world with host.tables.recipes := world.host.tables.recipes.remove id }

/-- The world after calls, in order. -/
def answerAll (world : World) (calls : List Call) : World :=
  calls.foldl answer world

/-- The world after events, in order. -/
def run (world : World) (events : List Event) : World :=
  events.foldl step world

/-- Running events and then more is running all of them. -/
theorem run_append (world : World) (earlier later : List Event) :
    world.run (earlier ++ later) = (world.run earlier).run later :=
  List.foldl_append

/-! ## Calls that inject or not -/

/-- What copying icons works on: the tables of the host and the marks of the engine. -/
def itemState (world : World) : ItemState := ⟨world.host.tables, world.engine.marks⟩

/-- The world with other tables and marks. -/
def withItems (world : World) (state : ItemState) : World :=
  ⟨{ world.engine with marks := state.marks }, { world.host with tables := state.tables }⟩

/-- Showing an item tries to copy its icon. -/
theorem answer_display (world : World) (id : Nat) :
    world.answer (.display id) = world.withItems (retryIcon id world.itemState).2 := by
  rw [answer, Engine.displayItem, ← itemState]
  generalize retryIcon id world.itemState = tried
  rfl

/-- Resolving icons tries to copy all of them. -/
theorem answer_resolveIcons (world : World) :
    world.answer .resolveIcons = world.withItems (retryIcons world.itemState).2 := by
  rw [answer, Engine.resolveIcons, ← itemState]
  generalize retryIcons world.itemState = tried
  rfl

/-- What becomes of the engine and the tables in a call: packages are registered, an injection is
tried, one icon is copied or all are, or neither the content nor the tables change. -/
inductive AnswerTurn (world : World) : Call → World → Prop
  /-- Packages are registered. -/
  | registered (call : Call) :
      AnswerTurn world call { world with engine := world.engine.registerAll call.registered }
  /-- An injection is tried. -/
  | injected (call : Call) (nothing : call.registered = []) : AnswerTurn world call world.inject
  /-- An icon is copied, if it can be. -/
  | displayed (id : Nat) :
      AnswerTurn world (.display id) (world.withItems (retryIcon id world.itemState).2)
  /-- Icons are copied, if they can be. -/
  | resolved :
      AnswerTurn world .resolveIcons (world.withItems (retryIcons world.itemState).2)
  /-- Only quests, what the host keeps of them, or known recipes change. -/
  | aside (call : Call) (nothing : call.registered = []) (after : World) (quests : QuestCatalog)
      (engine : after.engine = { world.engine with quests := quests })
      (tables : after.host.tables = world.host.tables) : AnswerTurn world call after

/-- A call comes to one of the listed turns. -/
theorem answer_turn (world : World) (call : Call) :
    AnswerTurn world call (world.answer call) := by
  cases call with
  | register package => exact .registered (.register package)
  | discover packages =>
    rw [answer, Engine.discover_engine]
    exact .registered (.discover packages)
  | inject => exact .injected .inject rfl
  | notify notification =>
    rw [answer, Engine.onAction]
    by_cases reload : notification.isSessionReload = true
    · rw [if_pos reload]
      by_cases needs : world.engine.needsInjection world.host.tables = true
      · rw [if_pos needs]
        exact .injected (.notify notification) rfl
      · rw [if_neg needs]
        exact .aside _ rfl _ world.engine.quests rfl rfl
    · rw [if_neg reload]
      exact .aside _ rfl _ _ rfl rfl
  | display id =>
    rw [answer_display]
    exact .displayed id
  | resolveIcons =>
    rw [answer_resolveIcons]
    exact .resolved
  | unlockRecipes => exact .aside _ rfl _ world.engine.quests rfl rfl

/-- A call keeps every property of the tables that single steps and copies of icons keep. -/
theorem answer_keeps (property : Tables → Prop) {world : World}
    (items : ∀ entry ∈ world.engine.items.entries, ∀ state done,
      itemStep world.engine.ids entry state = .ok done → property state.tables →
      property done.state.tables)
    (icons : ∀ id state, property state.tables → property (retryIcon id state).2.tables)
    (recipes : ∀ registry entry tables done,
      recipeStep world.engine.ids registry entry tables = .ok done → property tables →
      property done.state)
    (initially : property world.host.tables) (call : Call) :
    property (world.answer call).host.tables := by
  have passed : property (world.engine.itemPass world.host.tables).state.tables :=
    runPass_keeps (fun state : ItemState => property state.tables) items initially
  have turn := answer_turn world call
  generalize world.answer call = after at turn ⊢
  cases turn with
  | registered => exact initially
  | injected =>
    rw [inject]
    have injection := Engine.injectContent_turn world.engine world.host.tables
    generalize world.engine.injectContent world.host.tables = result at injection ⊢
    cases injection with
    | nothing => exact initially
    | items => exact passed
    | full =>
      exact runPass_keeps property (fun entry _ tables done => recipes _ entry tables done) passed
  | displayed id => exact icons id world.itemState initially
  | resolved =>
    exact retryEach_keeps (fun state : ItemState => property state.tables) icons _ initially
  | aside _ _ after _ _ tables =>
    rw [tables]
    exact initially

/-! ## Growth -/

/-- A call only adds to the tables. -/
theorem answer_grows (world : World) (call : Call) :
    world.host.tables.GrowsTo (world.answer call).host.tables := by
  refine answer_keeps world.host.tables.GrowsTo ?_ ?_ ?_ (.refl _) call
  · exact fun _ _ _ _ ok grown => grown.trans (itemStep_grows ok)
  · exact fun id state grown => grown.trans (retryIcon_grows id state)
  · exact fun _ _ _ _ ok grown => grown.trans (recipeStep_grows ok)

/-! ## Content -/

/-- An event adds the packages it registers to the content of the engine and nothing else. -/
theorem step_sameContent {world : World} {engine : Engine}
    (same : world.engine.SameContent engine) (event : Event) :
    (world.step event).engine.SameContent (engine.registerAll event.registered) := by
  cases event with
  | reload | removeItem | removeRecipe =>
    simp only [step, Event.registered, Engine.registerAll, List.foldl_nil]
    exact same
  | call call =>
    rw [step]
    have turn := answer_turn world call
    generalize world.answer call = after at turn ⊢
    cases turn with
    | registered => exact same.registerAll call.registered
    | injected _ nothing =>
      have kept : world.inject.engine.SameContent world.engine := by
        rw [inject]
        exact Engine.sameContent_injectContent world.engine world.host.tables
      rw [Event.registered, nothing]
      exact kept.trans same
    | displayed | resolved => exact ⟨same.ids, same.items, same.recipes⟩
    | aside _ nothing after quests changed =>
      rw [Event.registered, nothing, changed]
      exact ⟨same.ids, same.items, same.recipes⟩

/-- The packages registered by events, in order. -/
def registered (events : List Event) : List Package :=
  events.flatMap Event.registered

/-- After events the engine has its old content and the packages registered by them. -/
theorem run_sameContent {world : World} {engine : Engine}
    (same : world.engine.SameContent engine) (events : List Event) :
    (world.run events).engine.SameContent (engine.registerAll (registered events)) := by
  induction events generalizing world engine with
  | nil => exact same
  | cons event rest ih =>
    rw [registered, List.flatMap_cons, Engine.registerAll_append]
    exact ih (step_sameContent same event)

end World

end Modpack
