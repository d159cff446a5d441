import Modpack.Dict
import Modpack.Host.Field

/-!
# The quest log of the host

The host keeps the quests under way in the order they were started, the nodes under way of each
quest it knows, what the player carries, and the nodes done so far. A quest may be under way
without its nodes being known; asking for them is then refused.
-/
namespace Modpack

/-- The host's record of quests and belongings. -/
structure QuestLog where
  /-- The quests under way, in the order they were started; a quest may stand twice. -/
  active : List String
  /-- The nodes under way of each quest whose nodes are known. -/
  nodes : Dict String (List String)
  /-- How many of each item the player carries. -/
  inventory : Dict Nat Int
  /-- The nodes done, as quest and node, in the order they were done. -/
  completed : List (String × String)

namespace QuestLog

/-- The log before anything happened. -/
def empty : QuestLog := ⟨[], .empty, .empty, []⟩

/-- Start a quest at a node. -/
def start (log : QuestLog) (quest node : String) : QuestLog :=
  { log with active := log.active ++ [quest], nodes := log.nodes.insert quest [node] }

/-- Put a quest under way without saying anything about its nodes. -/
def track (log : QuestLog) (quest : String) : QuestLog :=
  { log with active := log.active ++ [quest] }

/-- Put a node of a quest under way; nothing happens when the quest's nodes are not known. -/
def activate (log : QuestLog) (quest node : String) : QuestLog :=
  match log.nodes.get? quest with
  | some nodes => { log with nodes := log.nodes.insert quest (nodes ++ [node]) }
  | none => log

/-- Say how many of an item the player carries. -/
def setInventory (log : QuestLog) (item : Nat) (count : Int) : QuestLog :=
  { log with inventory := log.inventory.insert item count }

/-- How many of an item the player carries. -/
def inventoryCount (log : QuestLog) (item : Nat) : Int :=
  (log.inventory.get? item).getD 0

/-- The nodes of a quest that are under way. -/
def inProgress (log : QuestLog) (quest : String) : Except HostError (List String) :=
  match log.nodes.get? quest with
  | some nodes => .ok nodes
  | none => .error (.unknownQuest quest)

/-- Move the first occurrence of a node from those under way to those done. -/
def markDone (log : QuestLog) (quest node : String) : Except HostError QuestLog :=
  match log.nodes.get? quest with
  | none => .error (.unknownQuest quest)
  | some nodes =>
    if nodes.contains node then
      .ok { log with
        nodes := log.nodes.insert quest (nodes.erase node)
        completed := log.completed ++ [(quest, node)] }
    else .error (.unknownNode quest node)

end QuestLog

/-- What the host says has happened. -/
inductive ActionKind where
  /-- Anything; without item and count, a session was loaded. -/
  | all
  /-- Something about an item. -/
  | item
  /-- A talk. -/
  | talk
  /-- A place was reached. -/
  | location
  /-- Something else. -/
  | other
deriving DecidableEq, Repr

/-- A notification from the host. -/
structure Notification where
  /-- What happened. -/
  kind : ActionKind
  /-- The item it is about; zero for none. -/
  item : Nat
  /-- How many of the item. -/
  count : Int
  /-- A key of the host without meaning here. -/
  key : String := ""
deriving DecidableEq, Repr

namespace Notification

/-- What the host sends after it built its tables. -/
def sessionLoaded : Notification := { kind := .all, item := 0, count := 0 }

/-- Whether the host says that it built its tables. -/
def isSessionReload (notification : Notification) : Bool :=
  notification.kind = .all && notification.item == 0 && notification.count == 0

/-- Whether something happened to an item. -/
def isItemEvent (notification : Notification) : Bool :=
  notification.kind = .item && notification.item != 0

end Notification

end Modpack
