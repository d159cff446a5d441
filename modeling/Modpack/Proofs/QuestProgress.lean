import Mathlib.Data.List.Induction
import Modpack.Proofs.DueNodes
import Modpack.Proofs.Numbering

/-!
# Finishing waits

When something happens to an item, every quest under way is looked at that is registered and whose
nodes are known, and its due nodes are finished; the graphs are those the catalog gives, made before
or made now. What the other quests are does not matter to it, and a quest that stands twice is
finished in its first turn. So looking again after the same notification finishes nothing and
changes nothing.
-/
namespace Modpack

/-! ## Catalogs that can be reached -/

/-- What is asked of a catalog. -/
inductive CatalogCall where
  /-- Register a quest. -/
  | register (package : PackageInfo) (quest : QuestDefinition)
  /-- Make all graphs anew. -/
  | compileAll (items : Registry ItemDefinition)
  /-- Give the graph of a quest. -/
  | graph (quest : String) (items : Registry ItemDefinition)

/-- The counts of a quest that is registered are in the range of counts. -/
def CatalogCall.CountsFit : CatalogCall → Prop
  | .register _ quest => quest.CountsFit
  | _ => True

namespace QuestCatalog

/-- The catalog after a call. -/
def answer (catalog : QuestCatalog) : CatalogCall → QuestCatalog
  | .register package quest => catalog.accept package quest
  | .compileAll items => catalog.compileAll items
  | .graph quest items => (catalog.graph? quest items).2

/-- The catalog after calls, in order. -/
def run (catalog : QuestCatalog) (calls : List CatalogCall) : QuestCatalog :=
  calls.foldl answer catalog

/-- Calls whose counts fit leave a sound catalog of quests whose counts fit. -/
theorem run_sound (base : Nat) {calls : List CatalogCall} (fits : ∀ call ∈ calls, call.CountsFit) :
    ((empty base).run calls).Sound (fun _ _ => True) QuestDefinition.CountsFit := by
  have kept {catalog : QuestCatalog}
      (sound : catalog.Sound (fun _ _ => True) QuestDefinition.CountsFit) :
      (catalog.run calls).Sound (fun _ _ => True) QuestDefinition.CountsFit := by
    induction calls generalizing catalog with
    | nil => exact sound
    | cons call rest ih =>
      refine ih (fun other member => fits other (List.mem_cons_of_mem call member)) ?_
      have fit := fits call List.mem_cons_self
      cases call with
      | register package quest => exact sound.accept package fun _ => fit
      | compileAll items => exact sound.compileAll fun _ _ => trivial
      | graph quest items => exact sound.graph? (fun _ _ => trivial) quest
  exact kept (sound_empty base)

/-- The registry of a catalog that can be reached is one that quests were offered to. -/
theorem exists_offers (base : Nat) (calls : List CatalogCall) :
    ∃ offers, ((empty base).run calls).registry = (Registry.empty base).offerAll offers := by
  induction calls using List.reverseRecOn with
  | nil => exact ⟨[], rfl⟩
  | append_singleton calls call ih =>
    obtain ⟨offers, same⟩ := ih
    have next : (empty base).run (calls ++ [call]) = ((empty base).run calls).answer call :=
      List.foldl_append
    rw [next]
    cases call with
    | register package quest =>
      refine ⟨offers ++ [⟨package, quest⟩], ?_⟩
      rw [answer, accept_eq, Registry.offerAll_append, ← same]
      rfl
    | compileAll items => exact ⟨offers, same⟩
    | graph quest items => exact ⟨offers, (graph?_registry _ _ _).trans same⟩

/-- The graphs are those of registered quests whose counts fit, and registered quests belong to
packages. -/
structure Fit (catalog : QuestCatalog) : Prop where
  /-- Every graph is that of a registered quest whose counts fit. -/
  sound : catalog.Sound (fun _ _ => True) QuestDefinition.CountsFit
  /-- Registered quests belong to packages. -/
  managed : ∀ quest entry, catalog.registry.byKey? quest = some entry → isManaged quest = true

/-- A catalog that can be reached by calls whose counts fit. -/
theorem run_fit (base : Nat) {calls : List CatalogCall} (fits : ∀ call ∈ calls, call.CountsFit) :
    ((empty base).run calls).Fit := by
  refine ⟨run_sound base fits, fun quest entry found => ?_⟩
  obtain ⟨offers, same⟩ := exists_offers base calls
  rw [same] at found
  obtain ⟨_, offer, _, _, _, key, _⟩ :=
    ((Registry.tallied_offerAll base offers).latest quest entry).1 found
  rw [isManaged, ← key, Offer.key, PackageInfo.qualify, List.contains_iff_mem,
    String.toList_append, String.toList_append]
  exact List.mem_append_left _ (List.mem_append_right _ (by decide))

/-- Asking for a graph. -/
theorem Fit.graph? {catalog : QuestCatalog} (fit : catalog.Fit) (quest : String)
    (items : Registry ItemDefinition) : (catalog.graph? quest items).2.Fit := by
  refine ⟨fit.sound.graph? (fun _ _ => trivial) quest, ?_⟩
  rw [graph?_registry]
  exact fit.managed

end QuestCatalog

/-! ## Quests under way -/

namespace QuestState

/-- Whether a quest is registered. -/
def isRegistered (state : QuestState) (quest : String) : Bool :=
  (state.catalog.registry.byKey? quest).isSome

/-- Whether a quest is registered and its nodes are not known. -/
def isUnknown (state : QuestState) (quest : String) : Bool :=
  state.isRegistered quest && (state.log.nodes.get? quest).isNone

variable (state : QuestState) (items : Registry ItemDefinition) (item : Nat)

/-- Whether a node of a quest is due, by the quest's graph and what the player carries. -/
def isDue (quest node : String) : Bool :=
  (state.catalog.graph? quest items).1.any fun graph =>
    graph.isDue item (state.log.inventoryCount item) node

/-- The nodes of a quest that are under way and due, in order. -/
def dueNodes (quest : String) : List String :=
  ((state.log.nodes.get? quest).getD []).filter (state.isDue items item quest)

/-- The due nodes of several quests, each with its quest; a quest that stands twice counts once. -/
def duePairs (quests : List String) : List (String × String) :=
  quests.eraseDups.flatMap fun quest =>
    (state.dueNodes items item quest).map fun node => (quest, node)

/-- One more quest adds its due nodes, unless it was there before. -/
theorem duePairs_append_singleton (quests : List String) (quest : String) :
    state.duePairs items item (quests ++ [quest]) = state.duePairs items item quests ++
      if quest ∈ quests then []
      else (state.dueNodes items item quest).map fun node => (quest, node) := by
  rw [duePairs, duePairs, List.eraseDups_append, List.flatMap_append]
  by_cases before : quest ∈ quests <;> simp [List.removeAll, before, List.eraseDups_cons]

end QuestState

section Look

variable {items : Registry ItemDefinition} {item : Nat} {state : QuestState}
  (fit : state.catalog.Fit)
include fit

/-- Looking at a quest under way passes over one that is not registered, counts one whose nodes are
not known as an error, and finishes the due nodes of any other. -/
theorem evaluateQuest_eq (evaluation : Evaluation) (quest : String) :
    evaluateQuest items item (evaluation, state) quest =
      if state.isRegistered quest then
        match state.log.nodes.get? quest with
        | none =>
          ({ evaluation with checked := evaluation.checked + 1, errors := evaluation.errors + 1 },
            ⟨(state.catalog.graph? quest items).2, state.log⟩)
        | some nodes =>
          ({ evaluation with
              checked := evaluation.checked + 1
              completed := evaluation.completed + (state.dueNodes items item quest).length },
            ⟨(state.catalog.graph? quest items).2,
              state.log.finish quest nodes (state.isDue items item quest)⟩)
      else (evaluation, state) := by
  obtain ⟨unregistered, given⟩ := fit.sound.graph?_answer items quest
  cases found : state.catalog.registry.byKey? quest with
  | none =>
    have none := unregistered.2 found
    rw [evaluateQuest, QuestState.isRegistered, found]
    generalize state.catalog.graph? quest items = asked at none ⊢
    obtain ⟨graph, catalog⟩ := asked
    obtain rfl : graph = Option.none := none
    split <;> rfl
  | some entry =>
    obtain ⟨left, _, same⟩ := given entry found
    have known := fit.sound.sound.known entry (fit.sound.indexed.byKey?_eq_some_iff.1 found).1
    have due : state.isDue items item quest =
        (entry.graph left).isDue item (state.log.inventoryCount item) := by
      funext node
      rw [QuestState.isDue, same, Option.any_some]
    rw [evaluateQuest, QuestState.isRegistered, found, QuestState.dueNodes, due]
    generalize state.catalog.graph? quest items = asked at same ⊢
    obtain ⟨graph, catalog⟩ := asked
    obtain rfl : graph = some (entry.graph left) := same
    simp only [fit.managed quest entry found, if_true, Option.isSome_some,
      evaluateGraph_eq (entry.readsBack_graph known left)]
    cases state.log.nodes.get? quest <;> rfl

/-- No node of a quest that is not registered is due. -/
theorem isDue_of_unregistered {quest : String} (unregistered : state.isRegistered quest = false) :
    state.isDue items item quest = fun _ => false := by
  have absent : state.catalog.registry.byKey? quest = none :=
    Option.isSome_eq_false_iff.1 unregistered |> Option.isNone_iff_eq_none.1
  funext node
  rw [QuestState.isDue, (fit.sound.graph?_answer items quest).1.2 absent]
  rfl

end Look

/-- What looking at quests under way comes to. -/
structure Progress (items : Registry ItemDefinition) (item : Nat) (quests : List String)
    (before : QuestState) (outcome : Evaluation × QuestState) : Prop where
  /-- The quests under way are as before. -/
  active : outcome.2.log.active = before.log.active
  /-- The player carries what was carried before. -/
  inventory : outcome.2.log.inventory = before.log.inventory
  /-- The registered quests are as before. -/
  registry : outcome.2.catalog.registry = before.catalog.registry
  /-- Every quest has the graph it had before. -/
  graphs : ∀ quest, (outcome.2.catalog.graph? quest items).1 =
    (before.catalog.graph? quest items).1
  /-- The nodes that are not due stay under way, in their order. -/
  nodes : ∀ quest, outcome.2.log.nodes.get? quest =
    if quest ∈ quests then (before.log.nodes.get? quest).map
      (List.filter fun node => !before.isDue items item quest node)
    else before.log.nodes.get? quest
  /-- The due nodes are done, in the order of the quests and of their nodes. -/
  completed : outcome.2.log.completed =
    before.log.completed ++ before.duePairs items item quests
  /-- The nodes that were done are counted. -/
  finished : outcome.1.completed = (before.duePairs items item quests).length
  /-- The registered quests are counted. -/
  checked : outcome.1.checked = quests.countP before.isRegistered
  /-- The quests are counted whose nodes are not known. -/
  errors : outcome.1.errors = quests.countP before.isUnknown

namespace Progress

variable {items : Registry ItemDefinition} {item : Nat} {quests : List String}
  {before : QuestState} {evaluation : Evaluation} {state : QuestState}

/-- Looking at no quest. -/
theorem nil (items : Registry ItemDefinition) (item : Nat) (state : QuestState) :
    Progress items item [] state ({}, state) :=
  ⟨rfl, rfl, rfl, fun _ => rfl, fun _ => rfl, (List.append_nil _).symm, rfl, rfl, rfl⟩

section After

variable (progress : Progress items item quests before (evaluation, state))
include progress

/-- A node is due later when it was due before. -/
theorem isDue_eq (quest : String) :
    state.isDue items item quest = before.isDue items item quest := by
  funext node
  rw [QuestState.isDue, QuestState.isDue, progress.graphs, QuestLog.inventoryCount,
    progress.inventory]
  rfl

/-- The same quests are registered later. -/
theorem isRegistered_eq : state.isRegistered = before.isRegistered := by
  funext quest
  rw [QuestState.isRegistered, progress.registry]
  rfl

/-- The same quests are unknown later. -/
theorem isUnknown_eq : state.isUnknown = before.isUnknown := by
  funext quest
  rw [QuestState.isUnknown, QuestState.isUnknown, progress.isRegistered_eq, progress.nodes]
  split
  · rw [Option.isNone_map]
  · rfl

/-- A quest that was looked at has no due nodes left, and another has those it had. -/
theorem dueNodes_eq (quest : String) : state.dueNodes items item quest =
    if quest ∈ quests then [] else before.dueNodes items item quest := by
  rw [QuestState.dueNodes, progress.nodes, progress.isDue_eq]
  by_cases looked : quest ∈ quests
  · rw [if_pos looked, if_pos looked]
    cases before.log.nodes.get? quest with
    | none => rfl
    | some nodes => simp [List.filter_filter]
  · rw [if_neg looked, if_neg looked]
    rfl

end After

/-- The nodes of all quests after one quest more, told from the nodes of this one. -/
theorem nodes_append_singleton (progress : Progress items item quests before (evaluation, state))
    {quest : String} {after : Dict String (List String)}
    (here : after.get? quest = (state.log.nodes.get? quest).map
      (List.filter fun node => !before.isDue items item quest node))
    (elsewhere : ∀ other, quest ≠ other → after.get? other = state.log.nodes.get? other)
    (other : String) : after.get? other =
      if other ∈ quests ++ [quest] then (before.log.nodes.get? other).map
        (List.filter fun node => !before.isDue items item other node)
      else before.log.nodes.get? other := by
  -- A quest that had its turn before has only nodes left that are not due, so they stay.
  by_cases same : quest = other
  · have last : quest ∈ quests ++ [quest] := by simp
    rw [← same, here, progress.nodes, if_pos last]
    by_cases looked : quest ∈ quests
    · rw [if_pos looked]
      cases before.log.nodes.get? quest <;> simp [List.filter_filter]
    · rw [if_neg looked]
  · have apart : ¬ other = quest := fun equal => same equal.symm
    rw [elsewhere other same, progress.nodes]
    simp [apart]

/-- What is done and counted after one quest more, told from the due nodes of this one. -/
theorem counts_append_singleton (progress : Progress items item quests before (evaluation, state))
    (quest : String) :
    before.log.completed ++ before.duePairs items item (quests ++ [quest]) =
      state.log.completed ++ (state.dueNodes items item quest).map (fun node => (quest, node)) ∧
    (before.duePairs items item (quests ++ [quest])).length =
      evaluation.completed + (state.dueNodes items item quest).length ∧
    (quests ++ [quest]).countP before.isRegistered =
      evaluation.checked + (if state.isRegistered quest then 1 else 0) ∧
    (quests ++ [quest]).countP before.isUnknown =
      evaluation.errors + (if state.isUnknown quest then 1 else 0) := by
  have pairs : before.duePairs items item (quests ++ [quest]) =
      before.duePairs items item quests ++
        (state.dueNodes items item quest).map fun node => (quest, node) := by
    rw [before.duePairs_append_singleton, progress.dueNodes_eq]
    split <;> rfl
  have completed := progress.completed
  have finished := progress.finished
  have checked := progress.checked
  have errors := progress.errors
  simp only at completed finished checked errors
  refine ⟨?_, ?_, ?_, ?_⟩
  · rw [pairs, ← List.append_assoc, completed]
  · rw [pairs, List.length_append, List.length_map, finished]
  · rw [List.countP_append, List.countP_singleton, checked, progress.isRegistered_eq]
  · rw [List.countP_append, List.countP_singleton, errors, progress.isUnknown_eq]

/-- Looking at one quest more. -/
theorem step (progress : Progress items item quests before (evaluation, state))
    (fit : state.catalog.Fit) (quest : String) :
    Progress items item (quests ++ [quest]) before
      (evaluateQuest items item (evaluation, state) quest) := by
  have registry := (QuestCatalog.graph?_registry state.catalog quest items).trans
    progress.registry
  have graphs := fun other =>
    (state.catalog.graph?_graph? items quest other).trans (progress.graphs other)
  obtain ⟨completed, finished, checked, errors⟩ := progress.counts_append_singleton quest
  rw [QuestState.isUnknown] at errors
  rw [evaluateQuest_eq fit]
  cases registered : state.isRegistered quest with
  | false =>
    have undue : state.isDue items item quest = fun _ => false :=
      isDue_of_unregistered fit registered
    have none : state.dueNodes items item quest = [] := by
      rw [QuestState.dueNodes, undue]
      simp
    rw [none] at completed finished
    rw [registered] at checked errors
    refine ⟨progress.active, progress.inventory, progress.registry, progress.graphs,
      progress.nodes_append_singleton ?_ fun _ _ => rfl, ?_, finished.symm, checked.symm,
      errors.symm⟩
    · have all : (List.filter fun _ : String => !false) = id := funext fun _ => List.filter_true _
      rw [← progress.isDue_eq, undue, all, Option.map_id]
      rfl
    · exact (completed.trans (List.append_nil _)).symm
  | true =>
    rw [registered] at checked errors
    rw [if_pos rfl]
    cases there : state.log.nodes.get? quest with
    | none =>
      have none : state.dueNodes items item quest = [] := by
        rw [QuestState.dueNodes, there]
        rfl
      rw [none] at completed finished
      rw [there] at errors
      refine ⟨progress.active, progress.inventory, registry, graphs,
        progress.nodes_append_singleton ?_ fun _ _ => rfl, ?_, finished.symm, checked.symm,
        errors.symm⟩
      · rw [there]
        rfl
      · exact (completed.trans (List.append_nil _)).symm
    | some nodes =>
      rw [there] at errors
      refine ⟨progress.active, progress.inventory, registry, graphs,
        progress.nodes_append_singleton ?_ ?_, ?_, finished.symm, checked.symm, errors.symm⟩
      · rw [there, ← progress.isDue_eq]
        exact (Dict.get?_insert _ _ _ _).trans (if_pos rfl)
      · intro other apart
        exact (Dict.get?_insert _ _ _ _).trans (if_neg apart)
      · rw [completed, QuestState.dueNodes, there]
        rfl

end Progress

/-! ## All quests under way -/

section All

variable {state : QuestState} (fit : state.catalog.Fit) (items : Registry ItemDefinition)
  (item : Nat)
include fit

/-- Looking at a quest asks the catalog for its graph. -/
theorem catalog_evaluateQuest (evaluation : Evaluation) (quest : String) :
    (evaluateQuest items item (evaluation, state) quest).2.catalog =
      (state.catalog.graph? quest items).2 := by
  rw [evaluateQuest_eq fit]
  cases registered : state.isRegistered quest with
  | true => cases state.log.nodes.get? quest <;> rfl
  | false =>
    have absent : state.catalog.registry.byKey? quest = none :=
      Option.isNone_iff_eq_none.1 (Option.isSome_eq_false_iff.1 registered)
    have unmade : state.catalog.made? quest = none := by
      rw [Option.eq_none_iff_forall_ne_some]
      intro graph made
      obtain ⟨entry, _, found, _⟩ := fit.sound.made quest graph made
      rw [absent] at found
      cases found
    have none := (fit.sound.graph?_answer items quest).1.2 absent
    exact (QuestCatalog.graph?_of_made (unmade.trans none.symm)).symm

/-- Looking at quests in order; the graph of each was then asked for. -/
theorem progress_foldl (quests : List String) :
    let outcome := quests.foldl (evaluateQuest items item) ({}, state)
    Progress items item quests state outcome ∧ outcome.2.catalog.Fit ∧
      ∀ quest ∈ quests, outcome.2.catalog.made? quest =
        (outcome.2.catalog.graph? quest items).1 := by
  -- What was asked for stays there, so each turn only has to tell of its own quest.
  induction quests using List.reverseRecOn with
  | nil => exact ⟨.nil items item state, fit, fun quest member => by cases member⟩
  | append_singleton quests quest ih =>
    rw [List.foldl_append, List.foldl_cons, List.foldl_nil]
    generalize quests.foldl (evaluateQuest items item) ({}, state) = sofar at ih ⊢
    obtain ⟨evaluation, now⟩ := sofar
    obtain ⟨progress, fitNow, asked⟩ := ih
    have catalog := catalog_evaluateQuest fitNow items item evaluation quest
    refine ⟨progress.step fitNow quest, ?_, fun other member => ?_⟩
    · rw [catalog]
      exact fitNow.graph? quest items
    · rw [catalog, QuestCatalog.made?_graph?, QuestCatalog.graph?_graph?]
      by_cases same : quest = other
      · rw [if_pos same, same]
      · have before : other ∈ quests := by
          rcases List.mem_append.1 member with before | here
          · exact before
          · exact absurd (List.mem_singleton.1 here).symm same
        rw [if_neg same]
        exact asked other before

/-- Looking at quests whose graphs are there and that have no due nodes only counts them. -/
theorem foldl_of_idle {quests : List String}
    (asked : ∀ quest ∈ quests, state.catalog.made? quest =
      (state.catalog.graph? quest items).1)
    (idle : ∀ quest ∈ quests, state.dueNodes items item quest = []) (evaluation : Evaluation) :
    quests.foldl (evaluateQuest items item) (evaluation, state) =
      ({ evaluation with
          checked := evaluation.checked + quests.countP state.isRegistered
          errors := evaluation.errors + quests.countP state.isUnknown }, state) := by
  induction quests generalizing evaluation with
  | nil => rfl
  | cons quest rest ih =>
    have same := QuestCatalog.graph?_of_made (asked quest List.mem_cons_self)
    have none := idle quest List.mem_cons_self
    have later := ih (fun other member => asked other (List.mem_cons_of_mem quest member))
      fun other member => idle other (List.mem_cons_of_mem quest member)
    have unknown : state.isUnknown quest =
        (state.isRegistered quest && (state.log.nodes.get? quest).isNone) := rfl
    rw [List.foldl_cons, evaluateQuest_eq fit, same, none, List.countP_cons, List.countP_cons,
      unknown]
    cases state.isRegistered quest with
    | false => exact later evaluation
    | true =>
      cases there : state.log.nodes.get? quest with
      | none =>
        refine (later _).trans ?_
        simp [Nat.add_assoc, Nat.add_comm]
      | some nodes =>
        have undue : ∀ node ∈ nodes, state.isDue items item quest node = false := by
          rw [QuestState.dueNodes, there, Option.getD_some, List.filter_eq_nil_iff] at none
          intro node member
          exact Bool.eq_false_iff.2 (none node member)
        simp only [if_true, state.log.finish_of_idle there undue]
        refine (later _).trans ?_
        simp [Nat.add_assoc, Nat.add_comm]

end All

/-- When something happens to an item, the nodes are done that are due, and no others: those under
way in a registered quest whose nodes are known, that wait for the item with a count the player
carries. When the same happens again nothing is done and nothing changes. -/
theorem evaluate_finishes_due (base : Nat) {calls : List CatalogCall}
    (fits : ∀ call ∈ calls, call.CountsFit) (items : Registry ItemDefinition) (log : QuestLog)
    {notification : Notification} (kind : notification.kind = .item)
    (item : notification.item ≠ 0) :
    let before : QuestState := ⟨(QuestCatalog.empty base).run calls, log⟩
    let outcome := evaluate items notification before
    Progress items notification.item log.active before outcome ∧
      evaluate items notification outcome.2 = ({ outcome.1 with completed := 0 }, outcome.2) := by
  intro before outcome
  have event : notification.isItemEvent = true := by
    rw [Notification.isItemEvent, kind]
    simpa using item
  have first : outcome =
      log.active.foldl (evaluateQuest items notification.item) ({}, before) := by
    change evaluate items notification before = _
    rw [evaluate, if_pos event]
  have fit : before.catalog.Fit := QuestCatalog.run_fit base fits
  obtain ⟨progress, fitAfter, asked⟩ :=
    progress_foldl fit items notification.item log.active
  rw [← first] at progress fitAfter asked
  refine ⟨progress, ?_⟩
  have later : Progress items notification.item log.active before (outcome.1, outcome.2) :=
    progress
  have idle : ∀ quest ∈ log.active,
      outcome.2.dueNodes items notification.item quest = [] := by
    intro quest member
    rw [later.dueNodes_eq, if_pos member]
  have active : outcome.2.log.active = log.active := progress.active
  have again := foldl_of_idle fitAfter items notification.item asked idle {}
  rw [evaluate, if_pos event, active, again]
  refine congrArg (Prod.mk · _) ?_
  rw [later.isRegistered_eq, later.isUnknown_eq, ← progress.checked, ← progress.errors]
  simp

/-- A quest with two waits for one item. -/
def harvest : QuestDefinition :=
  { id := "harvest"
    stages := [
      { id := "few", kind := "wait",
        wait := some { kind := "item", item := some (.id 7), count := 2 } },
      { id := "many", kind := "wait",
        wait := some { kind := "item", item := some (.id 7), count := 5 } }] }

/-- The call that registers it. -/
def harvestCalls : List CatalogCall := [.register (.inMemory "farm") harvest]

/-- A log in which the quest stands twice, a node of it stands twice, and a quest of the host and
one without known nodes are under way. -/
def harvestLog : QuestLog :=
  { active := ["farm:harvest", "native", "farm:harvest", "farm:plow"]
    nodes := .ofList [("farm:harvest", ["few", "many", "few"]), ("native", ["few"])]
    inventory := .ofList [(7, 3)]
    completed := [] }

/-- What happened to the item. -/
def harvestNews : Notification := { kind := .item, item := 7, count := 1 }

/-- Both occurrences of the node that is due are done, once each, and nothing more when the same
happens again. -/
theorem harvest_progress :
    (∀ call ∈ harvestCalls, call.CountsFit) ∧ harvestNews.kind = .item ∧ harvestNews.item ≠ 0 ∧
    let before : QuestState := ⟨(QuestCatalog.empty 70000).run harvestCalls, harvestLog⟩
    let items : Registry ItemDefinition := .empty 60000
    let outcome := evaluate items harvestNews before
    Progress items 7 harvestLog.active before outcome ∧
      evaluate items harvestNews outcome.2 = ({ outcome.1 with completed := 0 }, outcome.2) ∧
      outcome.1 = { checked := 2, completed := 2 } ∧
      outcome.2.log.completed = [("farm:harvest", "few"), ("farm:harvest", "few")] ∧
      outcome.2.log.nodes.get? "farm:harvest" = some ["many"] := by
  have fits : ∀ call ∈ harvestCalls, call.CountsFit := by
    intro call member
    obtain rfl := List.mem_singleton.1 member
    intro stage inStages wait found
    simp only [harvest, List.mem_cons, List.not_mem_nil, or_false] at inStages
    rcases inStages with rfl | rfl <;> obtain rfl := Option.some.inj found <;> decide
  obtain ⟨progress, again⟩ := evaluate_finishes_due 70000 fits (.empty 60000) harvestLog
    (show harvestNews.kind = .item from rfl) (by decide)
  exact ⟨fits, rfl, by decide, progress, again, by decide, by decide, by decide⟩

end Modpack
