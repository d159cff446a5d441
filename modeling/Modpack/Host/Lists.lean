/-!
# Nested lists of records

A record does not hold its nested lists; it holds handles into a store of lists. A clone of a
record has the same handles, so both see what is pushed through either, until one of them gets
a fresh list in the place of its own. The store only grows: a fresh list never is one that was
handed out before, and pushing through one handle leaves the lists of all others alone.
-/
namespace Modpack

/-- An entry of a nested list. -/
inductive ListEntry where
  /-- A change of a character parameter. -/
  | parameter (stat : String) (value : Int)
  /-- Something a recipe takes. -/
  | ingredient (item : Nat) (count : Int)
deriving DecidableEq, Repr

/-- The place of a nested list in the store. -/
structure ListHandle where
  /-- How many lists were made before this one. -/
  index : Nat
deriving DecidableEq, Repr

/-- All nested lists, in the order in which they were made. -/
structure ListStore where
  /-- The content of each list. -/
  contents : List (List ListEntry)
deriving DecidableEq, Repr

namespace ListStore

/-- The store without lists. -/
def empty : ListStore := ⟨[]⟩

/-- The content of a list. -/
def read (store : ListStore) (handle : ListHandle) : List ListEntry :=
  (store.contents[handle.index]?).getD []

/-- The handle the next fresh list will have. -/
def next (store : ListStore) : ListHandle :=
  ⟨store.contents.length⟩

/-- Add a fresh list; its handle is the store's next one. -/
def fresh (store : ListStore) (entries : List ListEntry) : ListStore :=
  ⟨store.contents ++ [entries]⟩

/-- Add an entry at the end of a list. -/
def push (store : ListStore) (handle : ListHandle) (entry : ListEntry) : ListStore :=
  ⟨store.contents.modify handle.index (· ++ [entry])⟩

/-- Whether a list of this handle was made. -/
def Made (store : ListStore) (handle : ListHandle) : Prop :=
  handle.index < store.contents.length

/-- A fresh list holds what it was made with. -/
theorem read_fresh_next (store : ListStore) (entries : List ListEntry) :
    (store.fresh entries).read store.next = entries := by
  simp [read, fresh, next]

/-- Lists made before keep their content when a fresh one is added. -/
theorem read_fresh {store : ListStore} {handle : ListHandle} (made : store.Made handle)
    (entries : List ListEntry) : (store.fresh entries).read handle = store.read handle := by
  simp [read, fresh, List.getElem?_append_left made]

/-- A push adds its entry to its own list. -/
theorem read_push_self {store : ListStore} {handle : ListHandle} (made : store.Made handle)
    (entry : ListEntry) : (store.push handle entry).read handle = store.read handle ++ [entry] := by
  have found : store.contents[handle.index]? = some (store.contents.get ⟨handle.index, made⟩) :=
    List.getElem?_eq_getElem made
  simp [read, push, found]

/-- A push leaves all other lists alone. -/
theorem read_push_other {store : ListStore} {handle other : ListHandle} (apart : handle ≠ other)
    (entry : ListEntry) : (store.push handle entry).read other = store.read other := by
  have different : handle.index ≠ other.index := fun same => apart (by
    cases handle; cases other; simp_all)
  simp [read, push, different]

end ListStore

end Modpack
