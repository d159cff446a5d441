import Modpack.Proofs.Indexes
import Modpack.Proofs.Tables
import Modpack.Quest.Evaluation

/-!
# Graphs that a catalog keeps

The graph of a quest depends on the items only through the numbers its waits resolve to. A catalog
makes a graph from the items of the moment and keeps it until all graphs are made anew or the quest
is registered again. So every graph that is there belongs to a registered quest and was made from
some items; which items these can be is left open here and said by `origin`, which every operation
on the catalog keeps as long as the items of the moment are among them.
-/
namespace Modpack

/-! ## What a graph depends on -/

/-- The condition of a wait is the same for two registries when the item it names is. -/
theorem WaitDefinition.condition?_eq_iff (wait : WaitDefinition) (package : PackageInfo)
    (left right : Registry ItemDefinition) :
    wait.condition? package left = wait.condition? package right ↔
      (wait.isItem = true → ∀ reference, wait.item = some reference →
        left.resolveItem? package.id reference = right.resolveItem? package.id reference) := by
  rw [condition?, condition?]
  by_cases waits : wait.isItem = true
  · rw [if_pos waits, if_pos waits]
    have apart : Function.Injective fun item => WaitCondition.atLeast item wait.count :=
      fun first second same => congrArg WaitCondition.item same
    rw [(Option.map_injective apart).eq_iff]
    cases wait.item with
    | none => simp
    | some reference => simp [waits]
  · rw [if_neg waits, if_neg waits]
    exact iff_of_true rfl fun waits' => absurd waits' waits

/-- Every item that a quest waits for has the same number in two registries, or has none in
both. -/
def Entry.WaitsAlike (entry : Entry QuestDefinition) (left right : Registry ItemDefinition) :
    Prop :=
  ∀ stage ∈ entry.definition.stages, stage.stageType = .wait → ∀ wait, stage.wait = some wait →
    wait.isItem = true → ∀ reference, wait.item = some reference →
    left.resolveItem? entry.package.id reference = right.resolveItem? entry.package.id reference

/-- The node of a stage is the same for two registries when what the stage waits for is. -/
theorem StageDefinition.compile_eq_iff (stage : StageDefinition) (package : PackageInfo)
    (quest : QuestDefinition) (left right : Registry ItemDefinition) :
    stage.compile package quest left = stage.compile package quest right ↔
      (stage.stageType = .wait → ∀ wait, stage.wait = some wait →
        wait.condition? package left = wait.condition? package right) := by
  have node : stage.compile package quest left = stage.compile package quest right ↔
      stage.nodeKind package quest left = stage.nodeKind package quest right := by
    simp [compile]
  rw [node, nodeKind, nodeKind]
  cases stage.stageType with
  | wait => cases stage.wait <;> simp
  | dialogue | action | unknown => simp

/-- The graph of a quest is the same for two registries when the items it waits for are. -/
theorem Entry.graph_eq_iff (entry : Entry QuestDefinition) (left right : Registry ItemDefinition) :
    entry.graph left = entry.graph right ↔ entry.WaitsAlike left right := by
  have nodes : entry.graph left = entry.graph right ↔
      ∀ stage ∈ entry.definition.stages,
        stage.compile entry.package entry.definition left =
          stage.compile entry.package entry.definition right := by
    simp [Entry.graph, QuestDefinition.compile]
  rw [nodes, WaitsAlike]
  simp only [StageDefinition.compile_eq_iff, WaitDefinition.condition?_eq_iff]

namespace QuestCatalog

/-! ## Registering -/

/-- The catalog after a quest was offered to it; one that is refused changes nothing. -/
def accept (catalog : QuestCatalog) (package : PackageInfo) (quest : QuestDefinition) :
    QuestCatalog :=
  match catalog.register package quest with
  | .ok registered => registered.2
  | .error _ => catalog

/-- The catalog after quests were offered to it in order. -/
def acceptAll (catalog : QuestCatalog) (package : PackageInfo) (quests : List QuestDefinition) :
    QuestCatalog :=
  quests.foldl (fun catalog quest => catalog.accept package quest) catalog

/-- A quest that is offered to a catalog is offered to its registry, and loses its graph if it is
not refused. -/
theorem accept_eq (catalog : QuestCatalog) (package : PackageInfo) (quest : QuestDefinition) :
    catalog.accept package quest =
      { registry := catalog.registry.accept package quest
        graphs := if quest.id = "" then catalog.graphs
          else catalog.graphs.erase (package.qualify quest.id) } := by
  have id : Definition.id quest = quest.id := rfl
  rw [accept, register, Registry.accept, Registry.register, id]
  by_cases unnamed : quest.id = ""
  · rw [if_pos unnamed, if_pos unnamed]
    rfl
  · rw [if_neg unnamed, if_neg unnamed]
    rfl

/-! ## Where graphs come from -/

/-- The quests are indexed and known, and every graph is that of a registered quest, made from items
it can come from. -/
structure Sound (origin : Entry QuestDefinition → Registry ItemDefinition → Prop)
    (known : QuestDefinition → Prop) (catalog : QuestCatalog) : Prop where
  /-- Both indexes of the registry lead to its entries. -/
  indexed : catalog.registry.Indexed
  /-- Numbers are in order, and entries are of known quests. -/
  sound : catalog.registry.Sound known
  /-- Every graph is that of a registered quest. -/
  made : ∀ quest graph, catalog.made? quest = some graph → ∃ entry items,
    catalog.registry.byKey? quest = some entry ∧ origin entry items ∧ graph = entry.graph items

variable {origin : Entry QuestDefinition → Registry ItemDefinition → Prop}
  {known : QuestDefinition → Prop} {catalog : QuestCatalog}

/-- A catalog without quests. -/
theorem sound_empty (base : Nat) : (empty base).Sound origin known :=
  ⟨Registry.indexed_empty base, Registry.sound_empty base known, fun _ _ made => by cases made⟩

/-- Graphs may come from more items. -/
theorem Sound.mono {wider : Entry QuestDefinition → Registry ItemDefinition → Prop}
    (sound : catalog.Sound origin known)
    (among : ∀ entry items, origin entry items → wider entry items) :
    catalog.Sound wider known := by
  refine ⟨sound.indexed, sound.sound, fun quest graph made => ?_⟩
  obtain ⟨entry, items, found, from', same⟩ := sound.made quest graph made
  exact ⟨entry, items, found, among entry items from', same⟩

/-- Offering a quest. -/
theorem Sound.accept (sound : catalog.Sound origin known) (package : PackageInfo)
    {quest : QuestDefinition} (isKnown : quest.id ≠ "" → known quest) :
    (catalog.accept package quest).Sound origin known := by
  rw [accept_eq]
  refine ⟨sound.indexed.accept sound.sound package quest,
    (sound.sound.accept package quest isKnown).1, fun key graph made => ?_⟩
  -- A graph that is still there is that of another quest, or the quest was refused.
  have apart : package.qualify quest.id ≠ key ∨ quest.id = "" := by
    by_cases unnamed : quest.id = ""
    · exact .inr unnamed
    · left
      intro same
      rw [made?, if_neg unnamed, Dict.get?_erase, if_pos same] at made
      cases made
  have before : catalog.made? key = some graph := by
    rw [made?] at made
    split at made
    · exact made
    · rw [Dict.get?_erase] at made
      split at made
      · cases made
      · exact made
  obtain ⟨entry, items, found, from', same⟩ := sound.made key graph before
  refine ⟨entry, items, ?_, from', same⟩
  rcases apart with other | unnamed
  · exact (sound.indexed.byKey?_accept_of_ne other).trans found
  · rw [Registry.accept, Registry.register, if_pos (show Definition.id quest = "" from unnamed)]
    exact found

/-- Offering quests. -/
theorem Sound.acceptAll (sound : catalog.Sound origin known) (package : PackageInfo)
    {quests : List QuestDefinition} (isKnown : ∀ quest ∈ quests, quest.id ≠ "" → known quest) :
    (catalog.acceptAll package quests).Sound origin known := by
  induction quests generalizing catalog with
  | nil => exact sound
  | cons quest rest ih =>
    exact ih (sound.accept package (isKnown quest List.mem_cons_self)) fun other member =>
      isKnown other (List.mem_cons_of_mem quest member)

/-- Making all graphs anew from items they can come from. -/
theorem Sound.compileAll {former : Entry QuestDefinition → Registry ItemDefinition → Prop}
    (sound : catalog.Sound former known) {items : Registry ItemDefinition}
    (now : ∀ entry ∈ catalog.registry.entries, origin entry items) :
    (catalog.compileAll items).Sound origin known := by
  refine ⟨sound.indexed, sound.sound, fun quest graph made => ?_⟩
  have listed := Dict.mem_of_get?_ofList made
  obtain ⟨entry, member, same⟩ := List.mem_map.1 listed
  obtain ⟨key, rfl⟩ := Prod.mk.inj same
  exact ⟨entry, items, sound.indexed.byKey?_eq_some_iff.2 ⟨member, key⟩, now entry member, rfl⟩

/-- Asking for a graph, with items it can come from. -/
theorem Sound.graph? (sound : catalog.Sound origin known) {items : Registry ItemDefinition}
    (now : ∀ entry ∈ catalog.registry.entries, origin entry items) (quest : String) :
    (catalog.graph? quest items).2.Sound origin known := by
  rw [QuestCatalog.graph?]
  cases made : catalog.made? quest with
  | some graph => exact sound
  | none =>
    cases found : catalog.registry.byKey? quest with
    | none => exact sound
    | some entry =>
      refine ⟨sound.indexed, sound.sound, fun other graph made' => ?_⟩
      simp only [made?, Dict.get?_insert] at made'
      split at made'
      · rename_i same
        subst same
        obtain rfl := Option.some.inj made'
        have member := (sound.indexed.byKey?_eq_some_iff.1 found).1
        exact ⟨entry, items, found, now entry member, rfl⟩
      · exact sound.made other graph made'

/-- Asking for a graph leaves the registered quests alone. -/
theorem graph?_registry (catalog : QuestCatalog) (quest : String)
    (items : Registry ItemDefinition) :
    (catalog.graph? quest items).2.registry = catalog.registry := by
  rw [QuestCatalog.graph?]
  cases catalog.made? quest with
  | some graph => rfl
  | none => cases catalog.registry.byKey? quest <;> rfl

/-- Looking at a quest under way asks for its graph if it belongs to a package. -/
theorem evaluateQuest_catalog (items : Registry ItemDefinition) (item : Nat)
    (sofar : Evaluation × QuestState) (quest : String) :
    (evaluateQuest items item sofar quest).2.catalog =
      if isManaged quest then (sofar.2.catalog.graph? quest items).2 else sofar.2.catalog := by
  obtain ⟨evaluation, catalog, log⟩ := sofar
  rw [evaluateQuest]
  by_cases managed : isManaged quest = true
  · simp only [managed, if_true]
    have unregistered (none : (catalog.graph? quest items).1 = none) :
        (catalog.graph? quest items).2 = catalog := by
      rw [QuestCatalog.graph?] at none ⊢
      split at none
      · cases none
      · split at none
        · rfl
        · cases none
    generalize catalog.graph? quest items = asked at unregistered ⊢
    obtain ⟨graph, after⟩ := asked
    cases graph with
    | none => exact (unregistered rfl).symm
    | some graph =>
      simp only
      split <;> rfl
  · simp only [managed, if_false, Bool.false_eq_true]

/-- Looking at quests under way, with items that graphs can come from; the registered quests are
left alone. -/
theorem Sound.evaluateQuests {sofar : Evaluation × QuestState}
    (sound : sofar.2.catalog.Sound origin known) {items : Registry ItemDefinition}
    (now : ∀ entry ∈ sofar.2.catalog.registry.entries, origin entry items) (item : Nat)
    (quests : List String) :
    (quests.foldl (evaluateQuest items item) sofar).2.catalog.Sound origin known ∧
      (quests.foldl (evaluateQuest items item) sofar).2.catalog.registry =
        sofar.2.catalog.registry := by
  induction quests generalizing sofar with
  | nil => exact ⟨sound, rfl⟩
  | cons quest rest ih =>
    have next : (evaluateQuest items item sofar quest).2.catalog.Sound origin known ∧
        (evaluateQuest items item sofar quest).2.catalog.registry =
          sofar.2.catalog.registry := by
      rw [evaluateQuest_catalog]
      by_cases managed : isManaged quest = true
      · rw [if_pos managed]
        exact ⟨sound.graph? now quest, graph?_registry _ _ _⟩
      · rw [if_neg managed]
        exact ⟨sound, rfl⟩
    rw [← next.2] at now
    obtain ⟨later, same⟩ := ih next.1 now
    exact ⟨later, same.trans next.2⟩

/-- Reacting to a notification, with items that graphs can come from; the registered quests are
left alone. -/
theorem Sound.evaluate {state : QuestState} (sound : state.catalog.Sound origin known)
    {items : Registry ItemDefinition}
    (now : ∀ entry ∈ state.catalog.registry.entries, origin entry items)
    (notification : Notification) :
    (evaluate items notification state).2.catalog.Sound origin known ∧
      (evaluate items notification state).2.catalog.registry = state.catalog.registry := by
  rw [Modpack.evaluate]
  by_cases event : notification.isItemEvent = true
  · rw [if_pos event]
    exact Sound.evaluateQuests sound now notification.item state.log.active
  · rw [if_neg event]
    exact ⟨sound, rfl⟩

/-! ## Answers -/

/-- A catalog has no graph to give exactly for quests that are not registered, and otherwise gives
one made before or one made now. -/
theorem Sound.graph?_answer (sound : catalog.Sound origin known) (items : Registry ItemDefinition)
    (quest : String) :
    ((catalog.graph? quest items).1 = none ↔ catalog.registry.byKey? quest = none) ∧
    ∀ entry, catalog.registry.byKey? quest = some entry →
      ∃ left, (origin entry left ∨ left = items) ∧
        (catalog.graph? quest items).1 = some (entry.graph left) := by
  rw [QuestCatalog.graph?]
  cases made : catalog.made? quest with
  | some graph =>
    obtain ⟨entry, left, found, from', rfl⟩ := sound.made quest graph made
    simp only [found]
    refine ⟨by simp, fun other same => ?_⟩
    obtain rfl := Option.some.inj same
    exact ⟨left, .inl from', rfl⟩
  | none =>
    cases found : catalog.registry.byKey? quest with
    | none => exact ⟨by simp, fun entry absent => by cases absent⟩
    | some entry =>
      refine ⟨by simp, fun other same => ?_⟩
      obtain rfl := Option.some.inj same
      exact ⟨items, .inr rfl, rfl⟩

/-! ## Asking twice -/

/-- A graph that was asked for is there, and other graphs are there as before. -/
theorem made?_graph? (catalog : QuestCatalog) (items : Registry ItemDefinition)
    (asked quest : String) :
    (catalog.graph? asked items).2.made? quest =
      if asked = quest then (catalog.graph? asked items).1 else catalog.made? quest := by
  rw [QuestCatalog.graph?]
  by_cases same : asked = quest
  · subst same
    rw [if_pos rfl]
    cases made : catalog.made? asked with
    | some graph => exact made
    | none =>
      cases catalog.registry.byKey? asked with
      | none => exact made
      | some entry => exact (Dict.get?_insert _ _ _ _).trans (if_pos rfl)
  · rw [if_neg same]
    cases catalog.made? asked with
    | some graph => rfl
    | none =>
      cases catalog.registry.byKey? asked with
      | none => rfl
      | some entry => exact (Dict.get?_insert _ _ _ _).trans (if_neg same)

/-- Asking for a graph does not change what is given for any quest. -/
theorem graph?_graph? (catalog : QuestCatalog) (items : Registry ItemDefinition)
    (asked quest : String) :
    ((catalog.graph? asked items).2.graph? quest items).1 = (catalog.graph? quest items).1 := by
  have given (catalog : QuestCatalog) : (catalog.graph? quest items).1 =
      (catalog.made? quest).or ((catalog.registry.byKey? quest).map fun entry =>
        entry.graph items) := by
    rw [QuestCatalog.graph?]
    cases catalog.made? quest with
    | some graph => rfl
    | none => cases catalog.registry.byKey? quest <;> rfl
  rw [given, given, made?_graph?, graph?_registry]
  by_cases same : asked = quest
  · rw [if_pos same, same, given]
    cases catalog.made? quest <;> cases catalog.registry.byKey? quest <;> rfl
  · rw [if_neg same]

/-- Asking for a graph that is there, or that there is none of, leaves the catalog as it is. -/
theorem graph?_of_made {catalog : QuestCatalog} {items : Registry ItemDefinition}
    {quest : String} (made : catalog.made? quest = (catalog.graph? quest items).1) :
    (catalog.graph? quest items).2 = catalog := by
  rw [QuestCatalog.graph?] at made ⊢
  cases there : catalog.made? quest with
  | some graph => rfl
  | none =>
    rw [there] at made
    cases found : catalog.registry.byKey? quest with
    | none => rfl
    | some entry =>
      rw [found] at made
      cases made

end QuestCatalog

end Modpack
