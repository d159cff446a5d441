import Modpack.Proofs.DisplayStrings
import Modpack.Proofs.QuestHistory

/-!
# Three kinds of content

An engine keeps items, recipes and quests in registries of their own, which number from bases of
their own. What registering a package does is the same for each of them, and nothing else adds to a
registry. So the registry of a kind holds, after any session, what the definitions of this kind
offered in the session came to, apart from the records last written for its entries.
-/
namespace Modpack

/-! ## What events do to the registries -/

/-- Two engines have the same items, recipes and quests. -/
structure Engine.SameRegistries (left right : Engine) : Prop where
  /-- Items and recipes are the same. -/
  content : left.SameContent right
  /-- Quests are the same. -/
  quests : left.quests.registry = right.quests.registry

/-- Reacting to a notification leaves the registered quests alone. -/
theorem evaluate_registry (items : Registry ItemDefinition) (notification : Notification)
    (state : QuestState) :
    (evaluate items notification state).2.catalog.registry = state.catalog.registry := by
  have each (sofar : Evaluation × QuestState) (quests : List String) :
      (quests.foldl (evaluateQuest items notification.item) sofar).2.catalog.registry =
        sofar.2.catalog.registry := by
    induction quests generalizing sofar with
    | nil => rfl
    | cons quest rest ih =>
      refine (ih _).trans ?_
      rw [QuestCatalog.evaluateQuest_catalog]
      by_cases managed : QuestCatalog.isManaged quest = true
      · rw [if_pos managed, QuestCatalog.graph?_registry]
      · rw [if_neg managed]
  rw [evaluate]
  by_cases event : notification.isItemEvent = true
  · rw [if_pos event]
    exact each _ _
  · rw [if_neg event]

/-- A call registers its packages and changes neither quests nor packages otherwise. -/
theorem World.answer_quests (world : World) (call : Call) :
    (world.answer call).engine.quests.registry =
        (world.engine.registerAll call.registered).quests.registry ∧
      (world.answer call).engine.packages =
        (world.engine.registerAll call.registered).packages := by
  have injected : world.inject.engine.quests.registry = world.engine.quests.registry ∧
      world.inject.engine.packages = world.engine.packages := by
    have turn := Engine.injectContent_turn world.engine world.host.tables
    rw [World.inject]
    generalize world.engine.injectContent world.host.tables = injection at turn ⊢
    cases turn <;> exact ⟨rfl, rfl⟩
  cases call with
  | register package => exact ⟨rfl, rfl⟩
  | discover packages =>
    rw [World.answer, Engine.discover_engine]
    exact ⟨rfl, rfl⟩
  | inject => exact injected
  | notify notification =>
    rw [World.answer_notify]
    by_cases reload : notification.isSessionReload = true
    · rw [if_pos reload]
      by_cases needs : world.engine.needsInjection world.host.tables = true
      · rw [if_pos needs]
        exact injected
      · rw [if_neg needs]
        exact ⟨rfl, rfl⟩
    · rw [if_neg reload]
      exact ⟨evaluate_registry _ _ _, rfl⟩
  | display id =>
    rw [World.answer_display]
    exact ⟨rfl, rfl⟩
  | resolveIcons =>
    rw [World.answer_resolveIcons]
    exact ⟨rfl, rfl⟩
  | unlockRecipes => exact ⟨rfl, rfl⟩

/-- An event of a session registers its packages and adds nothing else to the registries, nor to
the packages. -/
theorem World.attend_registries (world : World) (event : SessionEvent) :
    (world.attend event).engine.SameRegistries (world.engine.registerAll event.registered) ∧
      (world.attend event).engine.packages =
        (world.engine.registerAll event.registered).packages := by
  cases event with
  | clearItems | clearRecipes | rename | live => exact ⟨⟨⟨rfl, rfl, rfl⟩, rfl⟩, rfl⟩
  | graph quest =>
    exact ⟨⟨⟨rfl, rfl, rfl⟩, QuestCatalog.graph?_registry _ _ _⟩, rfl⟩
  | event event =>
    have content := World.step_sameContent (.refl world.engine) event
    cases event with
    | reload | removeItem | removeRecipe => exact ⟨⟨content, rfl⟩, rfl⟩
    | call call =>
      obtain ⟨quests, packages⟩ := world.answer_quests call
      exact ⟨⟨content, quests⟩, packages⟩

/-! ## Kinds of content -/

/-- A kind of content: where an engine keeps it and where a package declares it. -/
structure Content (δ : Type) [Definition δ] where
  /-- The registry of an engine. -/
  registry : Engine → Registry δ
  /-- The definitions of a package, in order. -/
  declared : Package → List δ
  /-- The first number. -/
  base : IdRanges → Nat
  /-- An engine starts without content. -/
  starts : ∀ ids, registry (.empty ids) = .empty (base ids)
  /-- Registering a package offers its definitions. -/
  registers : ∀ engine package, registry (engine.registerPackage package).engine =
    (registry engine).acceptAll package.info (declared package)
  /-- Engines with the same registries have the same content of this kind. -/
  agrees : ∀ {left right : Engine}, left.SameRegistries right →
    (registry left).forget = (registry right).forget

namespace Content

/-- The items. -/
def items : Content ItemDefinition where
  registry := Engine.items
  declared := Package.items
  base := IdRanges.itemBase
  starts _ := rfl
  registers engine package := by
    obtain ⟨catalog, same⟩ := Engine.registerPackage_engine engine package
    rw [same]
  agrees same := same.content.items

/-- The recipes. -/
def recipes : Content RecipeDefinition where
  registry := Engine.recipes
  declared := Package.recipes
  base := IdRanges.recipeBase
  starts _ := rfl
  registers engine package := by
    obtain ⟨catalog, same⟩ := Engine.registerPackage_engine engine package
    rw [same]
  agrees same := same.content.recipes

/-- The quests. -/
def quests : Content QuestDefinition where
  registry engine := engine.quests.registry
  declared := Package.quests
  base := IdRanges.questBase
  starts _ := rfl
  registers engine package := by
    rw [Engine.registerPackage_quests]
    generalize engine.quests = catalog
    induction package.quests generalizing catalog with
    | nil => rfl
    | cons quest rest ih =>
      refine (ih (catalog.accept package.info quest)).trans ?_
      rw [QuestCatalog.accept_eq]
      rfl
  agrees same := congrArg Registry.forget same.quests

variable {δ : Type} [Definition δ] (content : Content δ)

/-- The definitions of a package, as it offers them. -/
def offers (package : Package) : List (Offer δ) :=
  (content.declared package).map fun definition => ⟨package.info, definition⟩

/-- The definitions that events of a session offer, in order. -/
def offered (events : List SessionEvent) : List (Offer δ) :=
  (events.flatMap SessionEvent.registered).flatMap content.offers

/-- Registering a package offers its definitions to the registry. -/
theorem registry_registerPackage (engine : Engine) (package : Package) :
    content.registry (engine.registerPackage package).engine =
      (content.registry engine).offerAll (content.offers package) := by
  rw [content.registers, offers, Registry.offerAll, List.foldl_map]
  rfl

/-- Registering packages offers their definitions to the registry. -/
theorem registry_registerAll (engine : Engine) (packages : List Package) :
    content.registry (engine.registerAll packages) =
      (content.registry engine).offerAll (packages.flatMap content.offers) := by
  induction packages generalizing engine with
  | nil => rfl
  | cons package rest ih =>
    rw [List.flatMap_cons, Registry.offerAll_append, ← content.registry_registerPackage]
    exact ih (engine.registerPackage package).engine

/-- After a session the registry has the content that its offers lead to. -/
theorem session_registry (ids : IdRanges) (host : Host) (events : List SessionEvent) :
    (content.registry ((World.start ids host).session events).engine).forget =
      ((Registry.empty (content.base ids)).offerAll (content.offered events)).forget := by
  induction events using List.reverseRecOn with
  | nil => exact congrArg Registry.forget (content.starts ids)
  | append_singleton events event ih =>
    have next := content.agrees
      (((World.start ids host).session events).attend_registries event).1
    have more : content.offered (events ++ [event]) =
        content.offered events ++ event.registered.flatMap content.offers := by
      simp [offered]
    rw [World.session_append_singleton, next, content.registry_registerAll,
      Registry.offerAll_forget, ih, ← Registry.offerAll_forget, more, Registry.offerAll_append]

end Content

/-- After a session the packages are those registered in it, in order. -/
theorem World.session_packages (ids : IdRanges) (host : Host) (events : List SessionEvent) :
    ((World.start ids host).session events).engine.packages =
      (events.flatMap SessionEvent.registered).map Package.info := by
  have registered (engine : Engine) (packages : List Package) :
      (engine.registerAll packages).packages = engine.packages ++ packages.map Package.info := by
    induction packages generalizing engine with
    | nil => exact (List.append_nil _).symm
    | cons package rest ih =>
      refine (ih (engine.registerPackage package).engine).trans ?_
      obtain ⟨catalog, same⟩ := Engine.registerPackage_engine engine package
      rw [same, List.append_assoc]
      rfl
  induction events using List.reverseRecOn with
  | nil => rfl
  | append_singleton events event ih =>
    rw [World.session_append_singleton, (World.attend_registries _ event).2, registered, ih]
    simp

end Modpack
