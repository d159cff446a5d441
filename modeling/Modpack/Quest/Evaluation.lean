import Modpack.Host.QuestLog
import Modpack.Quest.Catalog

/-!
# Finishing waits

When the host reports something about an item, the waits for that item are looked at in every
quest under way that belongs to a package, and those whose count is reached are marked done. The
count is what the player carries, whatever the report says. A quest whose nodes the host does not
know counts as an error and does not hold up the others.
-/
namespace Modpack

/-- What came of looking at the quests under way. -/
structure Evaluation where
  /-- The quests looked at. -/
  checked : Nat := 0
  /-- The nodes marked done. -/
  completed : Nat := 0
  /-- The quests given up because the host refused something. -/
  errors : Nat := 0
deriving DecidableEq, Repr

/-- The graphs and the host's log, which looking at quests may both change. -/
structure QuestState where
  /-- The quests of the packages. -/
  catalog : QuestCatalog
  /-- The log of the host. -/
  log : QuestLog

/-- Whether a node waits for an item and the player carries enough. -/
def QuestGraph.isSatisfied (graph : QuestGraph) (item : Nat) (log : QuestLog) (node : String) :
    Bool :=
  match (graph.node? node).bind QuestNode.waitCondition? with
  | some condition => condition.item == item && condition.isMet (log.inventoryCount item)
  | none => false

/-- Mark those of the given nodes done that are satisfied, in order. The first refusal ends this;
nodes done before it stay done. -/
def finishNodes (graph : QuestGraph) (quest : String) (item : Nat) :
    List String → QuestLog → Except HostError Nat × QuestLog
  | [], log => (.ok 0, log)
  | node :: rest, log =>
    if graph.isSatisfied item log node then
      match log.markDone quest node with
      | .error error => (.error error, log)
      | .ok marked =>
        let (count, marked) := finishNodes graph quest item rest marked
        (count.map (· + 1), marked)
    else finishNodes graph quest item rest log

/-- Look at the nodes of one quest. -/
def evaluateGraph (graph : QuestGraph) (quest : String) (item : Nat) (log : QuestLog) :
    Except HostError Nat × QuestLog :=
  match log.inProgress quest with
  | .error error => (.error error, log)
  | .ok nodes => finishNodes graph quest item nodes log

/-- Look at one quest under way. Quests of the host and quests that are not registered are passed
over. -/
def evaluateQuest (items : Registry ItemDefinition) (item : Nat)
    (sofar : Evaluation × QuestState) (quest : String) : Evaluation × QuestState :=
  let (evaluation, state) := sofar
  if QuestCatalog.isManaged quest then
    match state.catalog.graph? quest items with
    | (none, _) => sofar
    | (some graph, catalog) =>
      let evaluation := { evaluation with checked := evaluation.checked + 1 }
      match evaluateGraph graph quest item state.log with
      | (.ok count, log) =>
        ({ evaluation with completed := evaluation.completed + count }, ⟨catalog, log⟩)
      | (.error _, log) => ({ evaluation with errors := evaluation.errors + 1 }, ⟨catalog, log⟩)
  else sofar

/-- Look at every quest under way, if the notification is about an item. -/
def evaluate (items : Registry ItemDefinition) (notification : Notification)
    (state : QuestState) : Evaluation × QuestState :=
  if notification.isItemEvent then
    state.log.active.foldl (evaluateQuest items notification.item) ({}, state)
  else ({}, state)

end Modpack
