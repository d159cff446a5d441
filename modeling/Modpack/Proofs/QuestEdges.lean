import Modpack.Proofs.Listings
import Modpack.Proofs.QuestTexts

/-!
# The edges of a quest graph

The stages of a quest name the stages that may follow, and the nodes of its graph have positions in
the place of these names. One pass over the stages notes under each id the position of the first
stage that has it, and every name is looked up in what was noted, forward or backward. So an edge
leads to the first stage with the name, every name of a stage gives an edge, in order and as often
as it is written, and a name that no stage has gives none.
-/
namespace Modpack

/-! ## Names and positions -/

namespace QuestDefinition

variable (quest : QuestDefinition) (id : String)

/-- Whether some stage has an id. -/
def declares : Bool :=
  quest.stages.any fun stage => stage.id == id

/-- A position is that of the first stage with an id. -/
def FirstWith (position : Nat) : Prop :=
  (∃ stage, quest.stages[position]? = some stage ∧ stage.id = id) ∧
    ∀ earlier < position, ∀ stage, quest.stages[earlier]? = some stage → stage.id ≠ id

/-- A position is found under an id exactly when it is that of the first stage with the id. -/
theorem stageIndex?_eq_some_iff (position : Nat) :
    quest.stageIndex? id = some position ↔ quest.FirstWith id position := by
  rw [stageIndex?_eq, List.findIdx?_eq_some_iff_getElem]
  constructor
  · rintro ⟨within, has, first⟩
    refine ⟨⟨quest.stages[position], List.getElem?_eq_getElem within, beq_iff_eq.1 has⟩, ?_⟩
    intro earlier before stage found
    obtain ⟨inside, rfl⟩ := List.getElem?_eq_some_iff.1 found
    have other := first earlier before
    simpa using other
  · rintro ⟨⟨stage, found, has⟩, first⟩
    obtain ⟨within, rfl⟩ := List.getElem?_eq_some_iff.1 found
    refine ⟨within, beq_iff_eq.2 has, fun earlier before => ?_⟩
    have inside : earlier < quest.stages.length := by omega
    have other := first earlier before _ (List.getElem?_eq_getElem inside)
    simpa using other

/-- A position is found under an id exactly when some stage has the id. -/
theorem isSome_stageIndex? : (quest.stageIndex? id).isSome = quest.declares id := by
  rw [stageIndex?_eq, declares, List.findIdx?_isSome]

/-- No position is found under an id exactly when no stage has the id. -/
theorem stageIndex?_eq_none_iff :
    quest.stageIndex? id = none ↔ ∀ stage ∈ quest.stages, stage.id ≠ id := by
  rw [stageIndex?_eq, List.findIdx?_eq_none_iff]
  simp

variable {quest id}

/-- The first stage with an id is a stage. -/
theorem FirstWith.lt {position : Nat} (first : quest.FirstWith id position) :
    position < quest.stages.length := by
  obtain ⟨stage, found, _⟩ := first.1
  exact (List.getElem?_eq_some_iff.1 found).1

end QuestDefinition

/-! ## Graphs -/

/-- The answers that the player may give at the node of a stage. -/
def StageDefinition.answers (stage : StageDefinition) : List DialogueOptionDefinition :=
  if stage.stageType = .dialogue then (stage.dialogue.getD {}).options else []

/-- The answers of a node. -/
def QuestNode.options (node : QuestNode) : List DialogueOption :=
  match node.kind with
  | .dialogue _ options => options
  | _ => []

/-- The id of the node at a position. -/
def QuestGraph.idAt? (graph : QuestGraph) (position : Nat) : Option String :=
  (graph.nodes[position]?).map QuestNode.id

/-- The edges of a graph are what the stages of a quest name. -/
structure QuestGraph.EdgesOf (quest : QuestDefinition) (graph : QuestGraph) : Prop where
  /-- There is one node for each stage, in the declared order. -/
  nodes : graph.nodes.map QuestNode.id = quest.stages.map StageDefinition.id
  /-- Every edge of a node leads to a node, and so does every edge of an answer. -/
  valid : ∀ node ∈ graph.nodes, (∀ position ∈ node.next, position < graph.nodes.length) ∧
    ∀ option ∈ node.options, ∀ position, option.next = some position →
      position < graph.nodes.length
  /-- The ids of the nodes that a node leads to are the names that its stage has, in order and with
  their repeats, without those that no stage has. -/
  names : List.Forall₂ (fun stage node =>
      node.next.map graph.idAt? = (stage.nextStages.filter quest.declares).map some)
    quest.stages graph.nodes
  /-- Each of these edges leads to the first stage with the name. -/
  first : List.Forall₂ (fun stage node =>
      List.Forall₂ quest.FirstWith (stage.nextStages.filter quest.declares) node.next)
    quest.stages graph.nodes
  /-- A node has the answers of its stage, in order. An answer leads somewhere exactly when it names
  a stage, and then to the first one with the name. -/
  options : List.Forall₂ (fun stage node =>
      List.Forall₂ (fun (answer : DialogueOptionDefinition) (option : DialogueOption) =>
          (option.next.isSome ↔ ∃ name, answer.nextStage = some name ∧ quest.declares name) ∧
          ∀ position, option.next = some position →
            ∃ name, answer.nextStage = some name ∧ quest.FirstWith name position)
        stage.answers node.options)
    quest.stages graph.nodes
  /-- The position under an id is what one pass over the stages notes for it. -/
  noted : ∀ id, graph.indexOf? id = quest.positions.get? id
  /-- It is that of the first stage with the id. -/
  found : ∀ id position, graph.indexOf? id = some position ↔ quest.FirstWith id position
  /-- There is none exactly when no stage has the id. -/
  missing : ∀ id, graph.indexOf? id = none ↔ ∀ stage ∈ quest.stages, stage.id ≠ id

section Compile

variable (quest : QuestDefinition) (key : String) (package : PackageInfo)
  (items : Registry ItemDefinition)

/-- The answers at the node of a stage are those of the stage. -/
theorem options_compile (stage : StageDefinition) :
    (stage.compile package quest items).options =
      stage.answers.map fun answer => answer.compile package quest := by
  unfold StageDefinition.compile QuestNode.options StageDefinition.nodeKind StageDefinition.answers
  cases stage.stageType <;> rfl

/-- The node at the position of the first stage with an id has the id. -/
theorem idAt?_compile {name : String} {position : Nat} (first : quest.FirstWith name position) :
    (quest.compile key package items).idAt? position = some name := by
  obtain ⟨stage, found, has⟩ := first.1
  have node : (quest.compile key package items).nodes[position]? =
      some (stage.compile package quest items) := by
    rw [QuestDefinition.compile, List.getElem?_map, found]
    rfl
  rw [QuestGraph.idAt?, node, ← has]
  rfl

/-- The edges of a node lead to the first stages with the names that its stage has. -/
theorem firstWith_next_compile (stage : StageDefinition) :
    List.Forall₂ quest.FirstWith (stage.nextStages.filter quest.declares)
      (stage.compile package quest items).next := by
  have declared : quest.declares = fun name => (quest.stageIndex? name).isSome :=
    funext fun name => (quest.isSome_stageIndex? name).symm
  rw [declared]
  refine forall₂_filterMap fun name _ position leads => ?_
  exact (quest.stageIndex?_eq_some_iff name position).1 leads

/-- An answer leads somewhere exactly when it names a stage, and then to the first one with the
name. -/
theorem next_compile (answer : DialogueOptionDefinition) :
    ((answer.compile package quest).next.isSome ↔
        ∃ name, answer.nextStage = some name ∧ quest.declares name) ∧
      ∀ position, (answer.compile package quest).next = some position →
        ∃ name, answer.nextStage = some name ∧ quest.FirstWith name position := by
  change ((answer.nextStage.bind quest.stageIndex?).isSome ↔ _) ∧
    ∀ position, answer.nextStage.bind quest.stageIndex? = some position → _
  cases answer.nextStage with
  | none => simp
  | some name =>
    have declared := quest.isSome_stageIndex? name
    simp [declared, quest.stageIndex?_eq_some_iff name]

/-- The names of the nodes that a node leads to are those of its stage that some stage has. -/
theorem map_idAt?_next_compile (stage : StageDefinition) :
    (stage.compile package quest items).next.map (quest.compile key package items).idAt? =
      (stage.nextStages.filter quest.declares).map some := by
  have first := firstWith_next_compile quest package items stage
  have ids : List.Forall₂ (· = ·) ((stage.nextStages.filter quest.declares).map some)
      ((stage.compile package quest items).next.map (quest.compile key package items).idAt?) := by
    rw [List.forall₂_map_left_iff, List.forall₂_map_right_iff]
    exact first.imp fun _ _ leads => (idAt?_compile quest key package items leads).symm
  rw [List.forall₂_eq_eq_eq] at ids
  exact ids.symm

/-- The edges of the graph of a quest are what its stages name. However often an id is declared,
whether a stage names itself, an earlier stage or a later one, and whatever names no stage at all:
there is one node for each stage in the declared order, every edge of a node or an answer is that of
the first stage with the name, every name that some stage has gives its edge, and the position under
an id is that of the first stage with it. -/
theorem edges_of_compiled_quest : (quest.compile key package items).EdgesOf quest := by
  have each {holds : StageDefinition → QuestNode → Prop}
      (holdsEach : ∀ stage ∈ quest.stages, holds stage (stage.compile package quest items)) :
      List.Forall₂ holds quest.stages (quest.compile key package items).nodes :=
    List.forall₂_map_right_iff.2 (List.forall₂_same.2 holdsEach)
  have length : (quest.compile key package items).nodes.length = quest.stages.length :=
    List.length_map _
  have position (id : String) : (quest.compile key package items).indexOf? id =
      quest.stageIndex? id := rfl
  constructor
  case nodes =>
    rw [QuestDefinition.compile, List.map_map]
    rfl
  case valid =>
    intro node member
    obtain ⟨stage, _, rfl⟩ := List.mem_map.1 member
    rw [length]
    constructor
    · intro position inNext
      obtain ⟨name, _, leads⟩ := List.mem_filterMap.1 inNext
      exact ((quest.stageIndex?_eq_some_iff name position).1 leads).lt
    · intro option inOptions position leads
      rw [options_compile] at inOptions
      obtain ⟨answer, _, rfl⟩ := List.mem_map.1 inOptions
      obtain ⟨name, _, first⟩ := (next_compile quest package answer).2 position leads
      exact first.lt
  case names => exact each fun stage _ => map_idAt?_next_compile quest key package items stage
  case first => exact each fun stage _ => firstWith_next_compile quest package items stage
  case options =>
    refine each fun stage _ => ?_
    rw [options_compile]
    exact List.forall₂_map_right_iff.2
      (List.forall₂_same.2 fun answer _ => next_compile quest package answer)
  case noted => exact fun _ => rfl
  case found =>
    intro id index
    rw [position, quest.stageIndex?_eq_some_iff]
  case missing =>
    intro id
    rw [position, quest.stageIndex?_eq_none_iff]

end Compile

end Modpack
