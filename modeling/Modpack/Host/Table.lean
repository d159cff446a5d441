import Modpack.IdMap

/-!
# Tables of the host

A table holds records under ids and counts the writes it receives. Setting a record and asking
for one in order to change it each count once, the latter also when no such record is there;
reading, removing and clearing do not count. A table without records is not ready.
-/
namespace Modpack

/-- Records under ids, with a count of the writes received. -/
structure Table (α : Type) where
  /-- The records. -/
  records : IdMap α
  /-- How many writes were received. -/
  writes : Nat

namespace Table

variable {α : Type}

/-- The table without records that received no write. -/
def empty : Table α := ⟨.empty, 0⟩

/-- Whether the host has filled the table. -/
def isReady (table : Table α) : Bool :=
  !table.records.isEmpty

/-- Whether a record is under an id. -/
def contains (table : Table α) (id : Nat) : Bool :=
  table.records.contains id

/-- The record under an id. -/
def get? (table : Table α) (id : Nat) : Option α :=
  table.records.get? id

/-- The ids, ascending. -/
def ids (table : Table α) : List Nat :=
  table.records.ids

/-- How many records there are. -/
def size (table : Table α) : Nat :=
  table.records.size

/-- Put a record under an id. -/
def set (table : Table α) (id : Nat) (record : α) : Table α :=
  ⟨table.records.insert id record, table.writes + 1⟩

/-- Count a write without making one. -/
def touch (table : Table α) : Table α :=
  { table with writes := table.writes + 1 }

/-- Take the record under an id out. -/
def remove (table : Table α) (id : Nat) : Table α :=
  { table with records := table.records.erase id }

/-- Take all records out. -/
def clear (table : Table α) : Table α :=
  { table with records := .empty }

/-- An id holds the record last set there, and a set leaves all other ids alone. -/
theorem get?_set (table : Table α) (id other : Nat) (record : α) :
    (table.set id record).get? other = if id = other then some record else table.get? other :=
  IdMap.get?_insert table.records id other record

/-- An id that was removed is empty, and all other ids are left alone. -/
theorem get?_remove (table : Table α) (id other : Nat) :
    (table.remove id).get? other = if id = other then none else table.get? other :=
  IdMap.get?_erase table.records id other

end Table

/-- The host's display strings under whole numbers, with a count of the writes received. -/
structure StringTable where
  /-- The strings. -/
  texts : IdMap String
  /-- How many writes were received. -/
  writes : Nat

namespace StringTable

/-- The table without strings that received no write. -/
def empty : StringTable := ⟨.empty, 0⟩

/-- The string under a key. -/
def get? (table : StringTable) (key : Nat) : Option String :=
  table.texts.get? key

/-- Write a string under a key. -/
def set (table : StringTable) (key : Nat) (text : String) : StringTable :=
  ⟨table.texts.insert key text, table.writes + 1⟩

end StringTable

end Modpack
