import Modpack.Quest.Wait
import Modpack.Registry

/-!
# Quest graphs

The graph of a quest has one node for each stage, in the order of the stages, and its edges are
positions of nodes. One pass over the stages notes the position of each under its id, and an id
that was noted before keeps its position. An edge leads where its name was noted; an edge to a
stage that does not exist is dropped. Phrases stand in the place of their keys, and an item wait
knows the number of its item, provided the registry of items knows it.
-/
namespace Modpack

/-- An answer the player may give. -/
structure DialogueOption where
  /-- The words of the answer. -/
  text : String
  /-- The position of the node it leads to. -/
  next : Option Nat
  /-- When it may be given, in the host's terms. -/
  condition : Option String
deriving DecidableEq, Repr

/-- What happens at a node. -/
inductive NodeKind where
  /-- Something is done at once. -/
  | action (action : ActionType) (parameters : List String)
  /-- Something is said. -/
  | dialogue (text : String) (options : List DialogueOption)
  /-- The quest waits; only a wait for a known item has a condition. -/
  | wait (note : String) (doneAfterSuccess : Bool) (condition : Option WaitCondition)
deriving DecidableEq, Repr

/-- A node of a quest. -/
structure QuestNode where
  /-- The id of its stage. -/
  id : String
  /-- The character it is about. -/
  npc : Option String
  /-- What the player reads. -/
  description : Option String
  /-- What happens. -/
  kind : NodeKind
  /-- The positions of the nodes that may follow. -/
  next : List Nat
deriving DecidableEq, Repr

/-- The condition of a node that waits for an item. -/
def QuestNode.waitCondition? (node : QuestNode) : Option WaitCondition :=
  match node.kind with
  | .wait _ _ condition => condition
  | _ => none

/-- A quest as a graph. -/
structure QuestGraph where
  /-- The key of the quest. -/
  quest : String
  /-- The title shown. -/
  title : String
  /-- Whether the quest stays after it is done. -/
  isPermanent : Bool
  /-- The nodes, the first being the entry. -/
  nodes : List QuestNode
  /-- The positions of the nodes under their ids. -/
  index : Dict String Nat
deriving DecidableEq, Repr

namespace QuestGraph

/-- The node a quest starts at. -/
def entry? (graph : QuestGraph) : Option QuestNode :=
  graph.nodes.head?

/-- The position under an id. -/
def indexOf? (graph : QuestGraph) (id : String) : Option Nat :=
  graph.index.get? id

/-- The node under an id. -/
def node? (graph : QuestGraph) (id : String) : Option QuestNode :=
  (graph.indexOf? id).bind fun index => graph.nodes[index]?

end QuestGraph

/-! ## From definitions to graphs -/

/-- Note the position of a stage under its id; an id that was noted before keeps its position. -/
def StageDefinition.note (positions : Dict String Nat) (stage : StageDefinition × Nat) :
    Dict String Nat :=
  if positions.contains stage.1.id then positions else positions.insert stage.1.id stage.2

namespace QuestDefinition

/-- The positions of the stages of a quest under their ids, noted in one pass. -/
def positions (quest : QuestDefinition) : Dict String Nat :=
  quest.stages.zipIdx.foldl StageDefinition.note .empty

/-- The position noted under an id. -/
def stageIndex? (quest : QuestDefinition) (id : String) : Option Nat :=
  quest.positions.get? id

/-- The title shown; a quest without one shows its key. -/
def shownTitle (quest : QuestDefinition) (package : PackageInfo) (key : String) : String :=
  ((nonEmpty? quest.title).map package.resolve).getD key

end QuestDefinition

/-- What is said where a dialogue has no words. -/
def silentText : String := "..."

/-- The answer that has no words. -/
def plainAnswer : String := "Continue"

/-- What a wait without description tells the player. -/
def plainNote : String := "Complete this objective"

/-- An answer with its phrase and its stage found. -/
def DialogueOptionDefinition.compile (package : PackageInfo) (quest : QuestDefinition)
    (option : DialogueOptionDefinition) : DialogueOption :=
  { text := ((nonEmpty? option.text).map package.resolve).getD plainAnswer
    next := option.nextStage.bind quest.stageIndex?
    condition := option.condition }

/-- The condition of a wait: there is one if it waits for an item that is named and known. -/
def WaitDefinition.condition? (package : PackageInfo) (items : Registry ItemDefinition)
    (wait : WaitDefinition) : Option WaitCondition :=
  if wait.isItem then
    (wait.item.bind (items.resolveItem? package.id)).map fun item =>
      .atLeast item wait.count
  else none

namespace StageDefinition

/-- What happens at the node of a stage. -/
def nodeKind (package : PackageInfo) (quest : QuestDefinition)
    (items : Registry ItemDefinition) (stage : StageDefinition) : NodeKind :=
  match stage.stageType with
  | .dialogue =>
    let dialogue := stage.dialogue.getD {}
    .dialogue (((nonEmpty? dialogue.text).map package.resolve).getD silentText)
      (dialogue.options.map fun option => option.compile package quest)
  | .wait =>
    .wait ((stage.shownDescription.map package.resolve).getD plainNote) true
      (stage.wait.bind fun wait => wait.condition? package items)
  | .action =>
    let action := stage.action.getD {}
    .action (ActionType.ofName action.kind) (nonEmpty? action.param).toList
  | .unknown => .action .nothing []

/-- The node of a stage. -/
def compile (package : PackageInfo) (quest : QuestDefinition)
    (items : Registry ItemDefinition) (stage : StageDefinition) : QuestNode :=
  { id := stage.id
    npc := stage.npc
    description := stage.shownDescription.map package.resolve
    kind := stage.nodeKind package quest items
    next := stage.nextStages.filterMap quest.stageIndex? }

end StageDefinition

/-- The graph of a quest. -/
def QuestDefinition.compile (quest : QuestDefinition) (key : String) (package : PackageInfo)
    (items : Registry ItemDefinition) : QuestGraph :=
  { quest := key
    title := quest.shownTitle package key
    isPermanent := quest.isPermanent
    nodes := quest.stages.map fun stage => stage.compile package quest items
    index := quest.positions }

/-- The graph of a registered quest. -/
def Entry.graph (entry : Entry QuestDefinition) (items : Registry ItemDefinition) : QuestGraph :=
  entry.definition.compile entry.key entry.package items

end Modpack
