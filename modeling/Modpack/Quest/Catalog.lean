import Modpack.Quest.Graph

/-!
# The catalog of quests

The registry of quests together with the graphs made so far. Registering a quest again drops its
graph; making all graphs drops those that were there. Texts are looked up in the definitions and
need no graph.
-/
namespace Modpack

/-- The registered quests with the graphs made so far. -/
structure QuestCatalog where
  /-- The registered quests. -/
  registry : Registry QuestDefinition
  /-- The graphs made so far, under the keys of their quests. -/
  graphs : Dict String QuestGraph

namespace QuestCatalog

/-- Whether a quest of the host belongs to a package; all keys of packages have a colon. -/
def isManaged (quest : String) : Bool :=
  quest.toList.contains ':'

/-- The catalog without quests, counting from a base. -/
def empty (base : Nat) : QuestCatalog := ⟨.empty base, .empty⟩

/-- Register a quest. The answer is its number and the catalog with it. -/
def register (catalog : QuestCatalog) (package : PackageInfo) (quest : QuestDefinition) :
    Except RegisterError (Nat × QuestCatalog) :=
  (catalog.registry.register package quest).map fun registered =>
    (registered.1,
      { registry := registered.2, graphs := catalog.graphs.erase (package.qualify quest.id) })

/-- Make the graphs of all quests anew. -/
def compileAll (catalog : QuestCatalog) (items : Registry ItemDefinition) : QuestCatalog :=
  { catalog with
    graphs := Dict.ofList (catalog.registry.entries.map fun entry =>
      (entry.key, entry.graph items)) }

/-- The graph of a quest, if it was made. -/
def made? (catalog : QuestCatalog) (quest : String) : Option QuestGraph :=
  catalog.graphs.get? quest

/-- The graph of a quest, made now if it was not before. -/
def graph? (catalog : QuestCatalog) (quest : String) (items : Registry ItemDefinition) :
    Option QuestGraph × QuestCatalog :=
  match catalog.made? quest with
  | some graph => (some graph, catalog)
  | none =>
    match catalog.registry.byKey? quest with
    | none => (none, catalog)
    | some entry =>
      let graph := entry.graph items
      (some graph, { catalog with graphs := catalog.graphs.insert quest graph })

/-! ## Texts -/

/-- The title of a quest. -/
def title? (catalog : QuestCatalog) (quest : String) : Option String :=
  (catalog.registry.byKey? quest).map fun entry =>
    entry.definition.shownTitle entry.package entry.key

/-- The description of the first stage with an id. -/
def descriptionAt? (entry : Entry QuestDefinition) (stage : String) : Option String :=
  (entry.definition.stage? stage).bind StageDefinition.shownDescription

/-- The text of a stage, told by its id. -/
def stageText? (catalog : QuestCatalog) (quest stage : String) : Option String :=
  (catalog.registry.byKey? quest).map fun entry =>
    ((descriptionAt? entry stage).map entry.resolve).getD ("Quest stage: " ++ stage)

/-- What is shown for a quest whose stages have no description. -/
def noDescription : String := "Quest Stage (No Description)"

/-- The text of a stage when the host may not say which; then the first stage speaks. -/
def stageTextOrFirst? (catalog : QuestCatalog) (quest : String) (stage : Option String) :
    Option String :=
  (catalog.registry.byKey? quest).map fun entry =>
    let named := stage.bind (descriptionAt? entry)
    let first := entry.definition.stages.head?.bind StageDefinition.shownDescription
    ((named.or first).map entry.resolve).getD noDescription

/-- The texts of a quest for the host: its title under its key, then each stage under its id. -/
def texts? (catalog : QuestCatalog) (quest : String) : Option (List (String × String)) :=
  (catalog.registry.byKey? quest).map fun entry =>
    (entry.key, entry.definition.shownTitle entry.package entry.key) ::
      entry.definition.stages.map fun stage =>
        (stage.id, (stage.shownDescription.map entry.resolve).getD ("Stage: " ++ stage.id))

end QuestCatalog

end Modpack
