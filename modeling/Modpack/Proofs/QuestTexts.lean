import Modpack.Proofs.QuestHistory

/-!
# The texts of a quest and of its graph

A quest has its texts twice: the catalog looks them up in the definition, and the graph holds them
since it was made. The two agree after every history. A graph that was kept may know the items of
an earlier moment only, but its texts come from the definition and the phrases of the quest as it
is registered now, because registering a quest again drops its graph. Where several stages have one
id, the first speaks on both sides: the lookup stops there, and the positions of the graph keep it.
-/
namespace Modpack

/-! ## Stages and nodes -/

/-- One pass over stages notes under each id the position of the first stage with that id. -/
theorem StageDefinition.get?_foldl_note (stages : List StageDefinition) (id : String) :
    (stages.zipIdx.foldl note .empty).get? id = stages.findIdx? fun stage => stage.id == id := by
  induction stages using List.reverseRecOn with
  | nil => rfl
  | append_singleton stages stage ih =>
    rw [List.zipIdx_append, List.foldl_append, List.findIdx?_append, ← ih]
    generalize stages.zipIdx.foldl note .empty = positions
    show (note positions (stage, 0 + stages.length)).get? id = _
    unfold note
    have single : ([stage].findIdx? fun stage => stage.id == id) =
        if stage.id = id then some 0 else none := by
      simp only [List.findIdx?_singleton, beq_iff_eq]
    rw [single]
    by_cases same : stage.id = id
    · subst same
      cases known : positions.get? stage.id with
      | some position => simp [Dict.contains, known]
      | none => simp [Dict.contains, known, Dict.get?_insert]
    · rw [if_neg same]
      by_cases known : positions.contains stage.id = true
      · simp [known]
      · simp [known, Dict.get?_insert, same]

/-- The position noted under an id is that of the first stage with the id. -/
theorem QuestDefinition.stageIndex?_eq (quest : QuestDefinition) (id : String) :
    quest.stageIndex? id = quest.stages.findIdx? fun stage => stage.id == id :=
  StageDefinition.get?_foldl_note quest.stages id

/-- The node under an id is that of the first stage with the id. -/
theorem QuestDefinition.node?_compile (quest : QuestDefinition) (key : String)
    (package : PackageInfo) (items : Registry ItemDefinition) (id : String) :
    (quest.compile key package items).node? id =
      (quest.stage? id).map fun stage => stage.compile package quest items := by
  have stage : quest.stage? id =
      (quest.stageIndex? id).bind fun index => quest.stages[index]? := by
    rw [stageIndex?_eq]
    exact List.find?_eq_bind_findIdx?_getElem?
  have node (index : Nat) : (quest.compile key package items).nodes[index]? =
      (quest.stages[index]?).map fun stage => stage.compile package quest items :=
    List.getElem?_map
  have index : (quest.compile key package items).indexOf? id = quest.stageIndex? id := rfl
  unfold QuestGraph.node?
  rw [index, stage, Option.map_bind]
  simp only [node]
  rfl

/-! ## Texts -/

namespace QuestGraph

/-- What the player reads at the first node with an id. -/
def descriptionAt? (graph : QuestGraph) (id : String) : Option String :=
  (graph.node? id).bind QuestNode.description

/-- What the player reads at the entry. -/
def entryDescription? (graph : QuestGraph) : Option String :=
  (QuestGraph.entry? graph).bind QuestNode.description

end QuestGraph

/-- The description at a node is the one its stage shows. -/
theorem Entry.descriptionAt?_graph (entry : Entry QuestDefinition)
    (items : Registry ItemDefinition) (id : String) :
    (entry.graph items).descriptionAt? id =
      (QuestCatalog.descriptionAt? entry id).map entry.resolve := by
  unfold QuestGraph.descriptionAt? QuestCatalog.descriptionAt? Entry.graph
  rw [QuestDefinition.node?_compile, Option.bind_map, Option.map_bind]
  rfl

/-- The description at the entry is the one the first stage shows. -/
theorem Entry.entryDescription?_graph (entry : Entry QuestDefinition)
    (items : Registry ItemDefinition) :
    (entry.graph items).entryDescription? =
      (entry.definition.stages.head?.bind StageDefinition.shownDescription).map entry.resolve := by
  have first : QuestGraph.entry? (entry.graph items) =
      entry.definition.stages.head?.map fun stage =>
        stage.compile entry.package entry.definition items := List.head?_map
  unfold QuestGraph.entryDescription?
  rw [first, Option.bind_map, Option.map_bind]
  rfl

/-- What the catalog tells of a quest is what a graph says. -/
structure QuestCatalog.TellsAs (catalog : QuestCatalog) (quest : String) (graph : QuestGraph) :
    Prop where
  /-- The title. -/
  title : catalog.title? quest = some graph.title
  /-- The text of a stage is the description at its node, or names the stage. -/
  stage : ∀ id, catalog.stageText? quest id =
    some ((graph.descriptionAt? id).getD ("Quest stage: " ++ id))
  /-- Where the host may not say which stage, the entry speaks for a node without description. -/
  stageOrFirst : ∀ id : Option String, catalog.stageTextOrFirst? quest id =
    some (((id.bind graph.descriptionAt?).or graph.entryDescription?).getD noDescription)

/-- A catalog tells of a registered quest what its graph says, whatever items this was made from. -/
theorem QuestCatalog.tellsAs_graph {catalog : QuestCatalog} {quest : String}
    {entry : Entry QuestDefinition} (found : catalog.registry.byKey? quest = some entry)
    (items : Registry ItemDefinition) : catalog.TellsAs quest (entry.graph items) := by
  constructor
  · unfold title?
    rw [found]
    rfl
  · intro id
    unfold stageText?
    rw [found, Option.map_some, entry.descriptionAt?_graph]
  · intro id
    have named : id.bind (entry.graph items).descriptionAt? =
        (id.bind (descriptionAt? entry)).map entry.resolve := by
      cases id with
      | none => rfl
      | some id => exact entry.descriptionAt?_graph items id
    unfold stageTextOrFirst?
    rw [found, Option.map_some, named, entry.entryDescription?_graph, ← Option.map_or]

/-- A catalog tells nothing of a quest that is not registered. -/
theorem QuestCatalog.silent_iff (catalog : QuestCatalog) (quest : String) :
    (catalog.title? quest = none ↔ catalog.registry.byKey? quest = none) ∧
      (∀ id, catalog.stageText? quest id = none ↔ catalog.registry.byKey? quest = none) ∧
      ∀ id, catalog.stageTextOrFirst? quest id = none ↔ catalog.registry.byKey? quest = none :=
  ⟨Option.map_eq_none_iff, fun _ => Option.map_eq_none_iff, fun _ => Option.map_eq_none_iff⟩

/-- After any history of registrations, injections, notifications and lookups the texts of a quest
are those of the graph that is given for it, and there are none exactly when no graph is given. -/
theorem quest_texts_follow_graph (ids : IdRanges) (host : Host) (events : List QuestEvent)
    (quest : String) :
    let now := (World.start ids host).follow events
    let answer := (now.engine.questGraph? quest).1
    let quests := now.engine.quests
    (quests.title? quest = none ↔ answer = none) ∧
    (∀ id, quests.stageText? quest id = none ↔ answer = none) ∧
    (∀ id, quests.stageTextOrFirst? quest id = none ↔ answer = none) ∧
    ∀ graph, answer = some graph → quests.TellsAs quest graph := by
  intro now answer quests
  have sound := World.follow_sound ids host events
  obtain ⟨unregistered, given⟩ := sound.graph?_answer now.engine.items quest
  have absent : answer = none ↔ quests.registry.byKey? quest = none := unregistered
  obtain ⟨title, stage, stageOrFirst⟩ := quests.silent_iff quest
  rw [absent]
  refine ⟨title, stage, stageOrFirst, fun graph answered => ?_⟩
  cases found : quests.registry.byKey? quest with
  | none =>
    have nothing := absent.2 found
    rw [answered] at nothing
    contradiction
  | some entry =>
    obtain ⟨items, _, same⟩ := given entry found
    have graphs : graph = entry.graph items := Option.some.inj (answered.symm.trans same)
    rw [graphs]
    exact QuestCatalog.tellsAs_graph found items

/-- A package whose quest names one stage twice and has one of its texts from the phrases. -/
def feast : Package :=
  { info := .ofManifest { id := "feast" } "" ⟨.ofList [("toast", "Raise your cup")]⟩
    quests := [{ id := "dine", title := some "The Feast"
                 stages := [{ id := "toast", description := some "@toast" },
                            { id := "toast", description := some "Drink" },
                            { id := "leave", description := some "" }] }] }

/-- A history in which the quest is registered again after its graph was asked for. -/
def feastEvents : List QuestEvent :=
  [.call (.register { feast with quests := [{ id := "dine" }] }), .graph "feast:dine",
    .call (.register feast), .call .inject]

/-- After that history the texts of the quest are those of its graph. -/
theorem feast_tells_as_its_graph :
    let now := (World.start {} Host.seeded).follow feastEvents
    ∃ graph, (now.engine.questGraph? "feast:dine").1 = some graph ∧
      now.engine.quests.TellsAs "feast:dine" graph ∧ graph.title = "The Feast" ∧
      graph.descriptionAt? "toast" = some "Raise your cup" ∧
      graph.descriptionAt? "leave" = none := by
  intro now
  have shown : (now.engine.questGraph? "feast:dine").1.map (fun graph =>
      (graph.title, graph.descriptionAt? "toast", graph.descriptionAt? "leave")) =
      some ("The Feast", some "Raise your cup", none) := by decide
  obtain ⟨graph, answered, texts⟩ := Option.map_eq_some_iff.1 shown
  obtain ⟨title, toast, leave⟩ : graph.title = "The Feast" ∧ graph.descriptionAt? "toast" = _ ∧
    graph.descriptionAt? "leave" = _ := by simpa using texts
  have tells := (quest_texts_follow_graph {} Host.seeded feastEvents "feast:dine").2.2.2
  exact ⟨graph, answered, tells graph answered, title, toast, leave⟩

end Modpack
