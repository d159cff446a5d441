import Modpack.Definition.ItemRef
import Modpack.Text.Lower

/-!
# Quest definitions

What a package says about a quest: a flat list of stages, each naming the stages that may follow
it. A stage talks, acts or waits; a stage of any other kind does nothing.
-/
namespace Modpack

/-- What a stage does. -/
inductive StageType where
  | action
  | dialogue
  | wait
  | unknown
deriving DecidableEq, Repr

/-- The name of a type. -/
def StageType.name : StageType → String
  | action => "action"
  | dialogue => "dialogue"
  | wait => "wait"
  | unknown => "unknown"

/-- The type a package names, in any case. -/
def StageType.ofName (name : String) : StageType :=
  let lowered := Text.lowered name
  if lowered = "action" then .action
  else if lowered = "dialogue" then .dialogue
  else if lowered = "wait" then .wait
  else .unknown

/-- What an action stage does at once. -/
inductive ActionType where
  | item
  | startQuest
  | questDone
  | questFail
  | skill
  | reputation
  | spawnObjects
  | removeObjects
  | nothing
deriving DecidableEq, Repr

/-- The action a package names, in any case. -/
def ActionType.ofName (name : String) : ActionType :=
  let lowered := Text.lowered name
  if lowered = "item" ∨ lowered = "give_item" then .item
  else if lowered = "start_quest" then .startQuest
  else if lowered = "quest_done" then .questDone
  else if lowered = "quest_fail" then .questFail
  else if lowered = "skill" then .skill
  else if lowered = "rep" then .reputation
  else if lowered = "spawn" then .spawnObjects
  else if lowered = "remove" then .removeObjects
  else .nothing

/-- An answer the player may give. -/
structure DialogueOptionDefinition where
  /-- The words of the answer. -/
  text : Option String := none
  /-- The stage it leads to. -/
  nextStage : Option String := none
  /-- When it may be given, in the host's terms. -/
  condition : Option String := none
deriving DecidableEq, Repr

/-- What is said at a stage. -/
structure DialogueDefinition where
  /-- The words spoken. -/
  text : Option String := none
  /-- The answers, in order. -/
  options : List DialogueOptionDefinition := []
deriving DecidableEq, Repr

/-- What is done at a stage. -/
structure ActionDefinition where
  /-- The action, as the package names it. -/
  kind : String := ""
  /-- What the action is about. -/
  param : Option String := none
deriving DecidableEq, Repr

/-- What a stage waits for. -/
structure WaitDefinition where
  /-- The kind of wait, as the package names it. -/
  kind : String := ""
  /-- The item waited for. -/
  item : Option ItemRef := none
  /-- How many of it. -/
  count : Int := 1
deriving DecidableEq, Repr

/-- Whether a kind of wait is a wait for an item. -/
def WaitDefinition.isItemKind (kind : String) : Bool :=
  Text.sameAscii kind "item"

/-- Whether the stage waits for an item. -/
def WaitDefinition.isItem (wait : WaitDefinition) : Bool :=
  isItemKind wait.kind

/-- A stage of a quest. -/
structure StageDefinition where
  /-- The id, meant to be unique in the quest. -/
  id : String
  /-- The type, as the package names it. -/
  kind : String := ""
  /-- What the player reads, or a phrase key. -/
  description : Option String := none
  /-- The character the stage is about. -/
  npc : Option String := none
  /-- What is said. -/
  dialogue : Option DialogueDefinition := none
  /-- What is done. -/
  action : Option ActionDefinition := none
  /-- What is waited for. -/
  wait : Option WaitDefinition := none
  /-- The stages that may follow. -/
  nextStages : List String := []
deriving DecidableEq, Repr

/-- A text that is there and not empty. -/
def nonEmpty? (text : Option String) : Option String :=
  text.filter (· ≠ "")

namespace StageDefinition

/-- What the stage does. -/
def stageType (stage : StageDefinition) : StageType :=
  StageType.ofName stage.kind

/-- The description, an empty one counting as absent. -/
def shownDescription (stage : StageDefinition) : Option String :=
  nonEmpty? stage.description

end StageDefinition

/-- A quest as a package defines it. -/
structure QuestDefinition where
  /-- The id, unique in its package. -/
  id : String
  /-- The title shown, or a phrase key. -/
  title : Option String := none
  /-- Whether the quest stays after it is done. -/
  isPermanent : Bool := false
  /-- The stages, the first being the entry. -/
  stages : List StageDefinition := []
deriving DecidableEq, Repr

/-- The first stage with an id. -/
def QuestDefinition.stage? (quest : QuestDefinition) (id : String) : Option StageDefinition :=
  quest.stages.find? fun stage => stage.id == id

/-! ## Reading -/

open Document

/-- The fields of an answer. -/
def DialogueOptionDefinition.schema : List Field :=
  [field "text", ⟨"nextStage", ["next_stage"]⟩, field "condition"]

/-- An answer from a document. -/
def DialogueOptionDefinition.ofValue? (format : Format) (value : Value) :
    Option DialogueOptionDefinition := do
  let found ← fields? format schema value
  let text ← withDefault? none (orNull? text?) found "text"
  let nextStage ← withDefault? none (orNull? text?) found "nextStage"
  let condition ← withDefault? none (orNull? text?) found "condition"
  some { text, nextStage, condition }

/-- The fields of a dialogue. -/
def DialogueDefinition.schema : List Field := [field "text", field "options"]

/-- A dialogue from a document. -/
def DialogueDefinition.ofValue? (format : Format) (value : Value) :
    Option DialogueDefinition := do
  let found ← fields? format schema value
  let text ← withDefault? none (orNull? text?) found "text"
  let options ← withDefault? [] (list? (DialogueOptionDefinition.ofValue? format)) found "options"
  some { text, options }

/-- The fields of an action. -/
def ActionDefinition.schema : List Field := [field "type", field "param"]

/-- An action from a document. -/
def ActionDefinition.ofValue? (format : Format) (value : Value) : Option ActionDefinition := do
  let found ← fields? format schema value
  let kind ← withDefault? "" text? found "type"
  let param ← withDefault? none (orNull? text?) found "param"
  some { kind, param }

/-- The fields of a wait. -/
def WaitDefinition.schema : List Field :=
  [field "type", ⟨"item_id", ["itemId"]⟩, field "count"]

/-- A wait from a document. -/
def WaitDefinition.ofValue? (format : Format) (value : Value) : Option WaitDefinition := do
  let found ← fields? format schema value
  let kind ← withDefault? "" text? found "type"
  let item ← withDefault? none (orNull? ItemRef.ofValue?) found "item_id"
  let count ← withDefault? 1 count? found "count"
  some { kind, item, count }

/-- The fields of a stage. -/
def StageDefinition.schema : List Field :=
  [field "id", field "type", field "description", field "npc", field "dialogue", field "action",
    field "wait", ⟨"nextStages", ["next_stages"]⟩]

/-- A stage from a document. -/
def StageDefinition.ofValue? (format : Format) (value : Value) : Option StageDefinition := do
  let found ← fields? format schema value
  let id ← required? text? found "id"
  let kind ← withDefault? "" text? found "type"
  let description ← withDefault? none (orNull? text?) found "description"
  let npc ← withDefault? none (orNull? text?) found "npc"
  let dialogue ← withDefault? none (orNull? (DialogueDefinition.ofValue? format)) found "dialogue"
  let action ← withDefault? none (orNull? (ActionDefinition.ofValue? format)) found "action"
  let wait ← withDefault? none (orNull? (WaitDefinition.ofValue? format)) found "wait"
  let nextStages ← withDefault? [] (list? text?) found "nextStages"
  some { id, kind, description, npc, dialogue, action, wait, nextStages }

/-- The fields of a quest. -/
def QuestDefinition.schema : List Field :=
  [field "id", field "title", ⟨"isPermanent", ["is_permanent"]⟩, field "stages"]

/-- A quest from a document. -/
def QuestDefinition.ofValue? (format : Format) (value : Value) : Option QuestDefinition := do
  let found ← fields? format schema value
  let id ← required? text? found "id"
  let title ← withDefault? none (orNull? text?) found "title"
  let isPermanent ← withDefault? false bool? found "isPermanent"
  let stages ← withDefault? [] (list? (StageDefinition.ofValue? format)) found "stages"
  some { id, title, isPermanent, stages }

end Modpack
