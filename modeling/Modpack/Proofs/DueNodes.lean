import Modpack.Proofs.Catalogs
import Modpack.Proofs.WaitCounts

/-!
# Nodes that are due

A node is due when it waits for an item and the player carries as many as were asked for. Going
through the nodes under way of one quest moves every node that is due to those done, one entry for
each time it stands there, and leaves the others in their order. The list that is gone through is
the one from before, so a node that was moved is still met where it stands again; it is never
refused, as one of its occurrences is left for each time it is met.
-/
namespace Modpack

/-! ## What is due -/

/-- The counts a quest asks for are in the range of counts. -/
def QuestDefinition.CountsFit (quest : QuestDefinition) : Prop :=
  ∀ stage ∈ quest.stages, ∀ wait, stage.wait = some wait →
    Whole.minCount ≤ wait.count ∧ wait.count ≤ Whole.maxCount

namespace QuestGraph

/-- Whether a node is due: the first node with its id waits for the item, and the count reaches the
one that was asked for. -/
def isDue (graph : QuestGraph) (item : Nat) (count : Int) (node : String) : Bool :=
  ((graph.node? node).bind QuestNode.waitCondition?).any fun condition =>
    condition.item == item && decide (condition.threshold ≤ count)

/-- Every condition of the graph reads back the count that was asked for. -/
def ReadsBack (graph : QuestGraph) : Prop :=
  ∀ node ∈ graph.nodes, ∀ condition, node.waitCondition? = some condition →
    condition.required = condition.threshold

/-- Where conditions read back their counts, the satisfied nodes are those that are due. -/
theorem ReadsBack.isSatisfied_eq {graph : QuestGraph} (reads : graph.ReadsBack) (item : Nat)
    (log : QuestLog) (node : String) :
    graph.isSatisfied item log node = graph.isDue item (log.inventoryCount item) node := by
  rw [isSatisfied, isDue]
  cases found : (graph.node? node).bind QuestNode.waitCondition? with
  | none => rfl
  | some condition =>
    obtain ⟨first, named, waits⟩ := Option.bind_eq_some_iff.1 found
    obtain ⟨index, _, placed⟩ := Option.bind_eq_some_iff.1 named
    have required := reads first (List.mem_of_getElem? placed) condition waits
    simp only [Option.any_some, WaitCondition.isMet, required]

end QuestGraph

/-- A node that waits is made from a stage that waits, with its count. -/
theorem StageDefinition.exists_wait_of_compile {stage : StageDefinition} {package : PackageInfo}
    {quest : QuestDefinition} {items : Registry ItemDefinition} {condition : WaitCondition}
    (waits : (stage.compile package quest items).waitCondition? = some condition) :
    ∃ wait item, stage.wait = some wait ∧ condition = .atLeast item wait.count := by
  rw [QuestNode.waitCondition?, compile, nodeKind] at waits
  cases kind : stage.stageType with
  | wait =>
    simp only [kind] at waits
    obtain ⟨wait, found, made⟩ := Option.bind_eq_some_iff.1 waits
    rw [WaitDefinition.condition?] at made
    split at made
    · obtain ⟨item, _, same⟩ := Option.map_eq_some_iff.1 made
      exact ⟨wait, item, found, same.symm⟩
    · cases made
  | dialogue | action | unknown =>
    rw [kind] at waits
    cases waits

/-- The graph of a quest whose counts fit reads them back. -/
theorem Entry.readsBack_graph {entry : Entry QuestDefinition} (fits : entry.definition.CountsFit)
    (items : Registry ItemDefinition) : (entry.graph items).ReadsBack := by
  intro node member condition waits
  obtain ⟨stage, inStages, rfl⟩ := List.mem_map.1 member
  obtain ⟨wait, item, found, rfl⟩ := StageDefinition.exists_wait_of_compile waits
  obtain ⟨low, high⟩ := fits stage inStages wait found
  exact WaitCondition.required_atLeast item low high

/-! ## One quest -/

/-- The log after the due ones of a quest's nodes were moved from those under way to those done. -/
def QuestLog.finish (log : QuestLog) (quest : String) (nodes : List String)
    (due : String → Bool) : QuestLog :=
  { log with
    nodes := log.nodes.insert quest (nodes.filter fun node => !due node)
    completed := log.completed ++ (nodes.filter due).map fun node => (quest, node) }

/-- Where no node is due, finishing the due ones changes nothing. -/
theorem QuestLog.finish_of_idle {log : QuestLog} {quest : String} {nodes : List String}
    {due : String → Bool} (there : log.nodes.get? quest = some nodes)
    (idle : ∀ node ∈ nodes, due node = false) : log.finish quest nodes due = log := by
  have done : nodes.filter due = [] := by
    rw [List.filter_eq_nil_iff]
    intro node member
    rw [idle node member]
    exact Bool.false_ne_true
  have left : nodes.filter (fun node => !due node) = nodes := by
    rw [List.filter_eq_self]
    intro node member
    rw [idle node member]
    rfl
  rw [finish, done, left, Dict.insert_self there, List.map_nil, List.append_nil]

/-- Moving the first node that is due, and then those among the others, moves all that are due. -/
theorem QuestLog.finish_of_marked {log : QuestLog} {quest node : String} {kept rest : List String}
    {due : String → Bool} (idle : ∀ other ∈ kept, due other = false) (now : due node = true) :
    QuestLog.finish
      { log with
        nodes := log.nodes.insert quest (kept ++ rest)
        completed := log.completed ++ [(quest, node)] } quest (kept ++ rest) due =
      log.finish quest (kept ++ node :: rest) due := by
  have none : kept.filter due = [] := by
    rw [List.filter_eq_nil_iff]
    intro other member
    rw [idle other member]
    exact Bool.false_ne_true
  have left : (node :: rest).filter (fun other => !due other) =
      rest.filter fun other => !due other := List.filter_cons_of_neg (by rw [now]; decide)
  simp only [finish, Dict.insert_insert, List.filter_append, none, left,
    List.filter_cons_of_pos now, List.nil_append, List.map_cons, List.append_assoc,
    List.singleton_append]

/-- Going through nodes under way, after some that are not due, moves those that are due and none
else. No node is refused, as each is still there in its turn. -/
theorem finishNodes_eq {graph : QuestGraph} (reads : graph.ReadsBack) (quest : String) (item : Nat)
    {count : Int} {log : QuestLog} (carried : log.inventoryCount item = count)
    {kept todo : List String} (there : log.nodes.get? quest = some (kept ++ todo))
    (idle : ∀ node ∈ kept, graph.isDue item count node = false) :
    finishNodes graph quest item todo log =
      (.ok (todo.filter (graph.isDue item count)).length,
        log.finish quest (kept ++ todo) (graph.isDue item count)) := by
  -- The nodes already met and not due are carried along, as the list in the log still starts with
  -- them.
  induction todo generalizing log kept with
  | nil =>
    rw [List.append_nil] at there ⊢
    rw [log.finish_of_idle there idle]
    rfl
  | cons node rest ih =>
    rw [finishNodes, reads.isSatisfied_eq, carried]
    cases now : graph.isDue item count node with
    | false =>
      have idle' : ∀ other ∈ kept ++ [node], graph.isDue item count other = false := by
        intro other member
        rcases List.mem_append.1 member with before | here
        · exact idle other before
        · rw [List.mem_singleton.1 here, now]
      have split : kept ++ node :: rest = (kept ++ [node]) ++ rest := by simp
      rw [split] at there
      rw [if_neg Bool.false_ne_true, ih carried there idle', split,
        List.filter_cons_of_neg (by rw [now]; decide)]
    | true =>
      -- No node before this one is due, so this one is not among them and is the first found.
      have notKept : node ∉ kept := by
        intro member
        rw [idle node member] at now
        cases now
      let marked : QuestLog :=
        { log with
          nodes := log.nodes.insert quest (kept ++ rest)
          completed := log.completed ++ [(quest, node)] }
      have marks : log.markDone quest node = .ok marked := by
        have present : (kept ++ node :: rest).contains node = true := by simp
        rw [QuestLog.markDone, there]
        simp only [present, if_true]
        rw [List.erase_append_right _ notKept, List.erase_cons_head]
      have there' : marked.nodes.get? quest = some (kept ++ rest) :=
        (Dict.get?_insert _ _ _ _).trans (if_pos rfl)
      have carried' : marked.inventoryCount item = count := carried
      rw [if_pos rfl, marks]
      simp only
      rw [ih carried' there' idle, QuestLog.finish_of_marked idle now,
        List.filter_cons_of_pos now]
      rfl

/-- Looking at the nodes of a quest moves those that are due. -/
theorem evaluateGraph_eq {graph : QuestGraph} (reads : graph.ReadsBack) (quest : String)
    (item : Nat) (log : QuestLog) :
    evaluateGraph graph quest item log = match log.nodes.get? quest with
      | none => (.error (.unknownQuest quest), log)
      | some nodes =>
        (.ok (nodes.filter (graph.isDue item (log.inventoryCount item))).length,
          log.finish quest nodes (graph.isDue item (log.inventoryCount item))) := by
  rw [evaluateGraph, QuestLog.inProgress]
  cases there : log.nodes.get? quest with
  | none => rfl
  | some nodes =>
    have all : log.nodes.get? quest = some ([] ++ nodes) := there
    exact finishNodes_eq reads quest item rfl all fun node member => by cases member

end Modpack
