import Modpack.Dict
import Modpack.Host.Table

/-!
# Entries of maps and tables

A map in ascending order holds an entry exactly when reading the id finds the value, so a
statement about what reading finds is one about all entries. `IdMap.map` changes the values and
keeps the ids; it commutes with writing and it only looks at values that reading can find. A
dictionary writes a key where it stands, so writing what is there changes nothing.
-/
namespace Modpack

namespace Dict

variable {κ α : Type} [DecidableEq κ]

/-- Putting what is found changes nothing. -/
theorem put_of_find? {entries : List (κ × α)} {key : κ} {value : α}
    (there : find? key entries = some value) : put key value entries = entries := by
  induction entries with
  | nil => cases there
  | cons entry rest ih =>
    by_cases here : entry.1 = key
    · rw [find?, if_pos here] at there
      obtain rfl := Option.some.inj there
      rw [put, if_pos here, ← here]
    · rw [find?, if_neg here] at there
      rw [put, if_neg here, ih there]

/-- Putting twice under a key is putting once. -/
theorem put_put (key : κ) (first second : α) (entries : List (κ × α)) :
    put key second (put key first entries) = put key second entries := by
  induction entries with
  | nil => simp [put]
  | cons entry rest ih =>
    by_cases here : entry.1 = key
    · simp [put, here]
    · simp only [put, if_neg here, ih]

omit [DecidableEq κ] in
/-- Dictionaries with the same entries are the same. -/
theorem ext {left right : Dict κ α} (same : left.entries = right.entries) : left = right := by
  cases left
  cases right
  simp_all

/-- Writing what is there changes nothing. -/
theorem insert_self {dict : Dict κ α} {key : κ} {value : α} (there : dict.get? key = some value) :
    dict.insert key value = dict :=
  ext (put_of_find? there)

/-- Writing under a key twice is writing once. -/
theorem insert_insert (dict : Dict κ α) (key : κ) (first second : α) :
    (dict.insert key first).insert key second = dict.insert key second :=
  ext (put_put key first second dict.entries)

/-- What a dictionary holds after entries were written was one of them or was there before. -/
theorem mem_or_get?_of_get?_foldl {entries : List (κ × α)} {dict : Dict κ α} {key : κ} {value : α}
    (found : (entries.foldl (fun dict entry => dict.insert entry.1 entry.2) dict).get? key =
      some value) : (key, value) ∈ entries ∨ dict.get? key = some value := by
  induction entries generalizing dict with
  | nil => exact .inr found
  | cons entry rest ih =>
    rcases ih found with member | before
    · exact .inl (List.mem_cons_of_mem entry member)
    · rw [get?_insert] at before
      by_cases same : entry.1 = key
      · rw [if_pos same] at before
        obtain rfl := Option.some.inj before
        rw [← same]
        exact .inl List.mem_cons_self
      · rw [if_neg same] at before
        exact .inr before

/-- What a dictionary of a list holds is in the list. -/
theorem mem_of_get?_ofList {entries : List (κ × α)} {key : κ} {value : α}
    (found : (ofList entries).get? key = some value) : (key, value) ∈ entries := by
  rcases mem_or_get?_of_get?_foldl found with member | nothing
  · exact member
  · cases nothing

end Dict

namespace IdMap

variable {α β : Type}

/-- In a list in ascending order an entry is found under its id, and only what is there is. -/
theorem find?_eq_some_iff {entries : List (Nat × α)} {id : Nat} {value : α}
    (ascending : entries.Pairwise fun left right => left.1 < right.1) :
    find? id entries = some value ↔ (id, value) ∈ entries := by
  induction entries with
  | nil => simp [find?]
  | cons entry rest ih =>
    obtain ⟨first, later⟩ := List.pairwise_cons.1 ascending
    simp only [find?, List.mem_cons]
    split
    · rename_i same
      have absent : (id, value) ∉ rest := by
        intro member
        have below := first _ member
        simp only at below
        omega
      constructor
      · intro found
        obtain rfl := Option.some.inj found
        exact .inl (by rw [← same])
      · rintro (equal | member)
        · rw [← equal]
        · exact absurd member absent
    · rename_i different
      rw [ih later]
      constructor
      · exact .inr
      · rintro (equal | member)
        · exact absurd (congrArg Prod.fst equal).symm different
        · exact member

/-- An entry is in a map exactly when its value is read under its id. -/
theorem mem_entries_iff (map : IdMap α) (id : Nat) (value : α) :
    (id, value) ∈ map.entries ↔ map.get? id = some value :=
  (find?_eq_some_iff map.ascending).symm

/-- Maps with the same entries are the same map. -/
theorem ext {left right : IdMap α} (same : left.entries = right.entries) : left = right := by
  cases left
  cases right
  simp_all

/-- Nothing is read under an id that is absent, and only there. -/
theorem get?_eq_none_iff (map : IdMap α) (id : Nat) :
    map.get? id = none ↔ map.contains id = false := by
  rw [contains, Option.isSome_eq_false_iff, Option.isNone_iff_eq_none]

/-- An id is present after a write when it is the written one or was present before. -/
theorem contains_insert (map : IdMap α) (id other : Nat) (value : α) :
    (map.insert id value).contains other = (id == other || map.contains other) := by
  simp only [contains, get?_insert]
  by_cases same : id = other <;> simp [same]

/-- A map is not empty after a write. -/
theorem isEmpty_insert (map : IdMap α) (id : Nat) (value : α) :
    (map.insert id value).isEmpty = false := by
  simp only [isEmpty, insert]
  cases map.entries with
  | nil => rfl
  | cons entry rest =>
    simp only [put]
    split
    · rfl
    · split <;> rfl

/-- An id that is present is one of the ids. -/
theorem mem_ids_of_contains {map : IdMap α} {id : Nat} (present : map.contains id = true) :
    id ∈ map.ids := by
  obtain ⟨value, found⟩ := Option.isSome_iff_exists.1 present
  exact List.mem_map.2 ⟨(id, value), (mem_entries_iff map id value).2 found, rfl⟩

/-- Writing under an id that a list does not have adds the id. -/
theorem perm_map_fst_put {entries : List (Nat × α)} {id : Nat} (absent : find? id entries = none)
    (value : α) : ((put id value entries).map Prod.fst).Perm (id :: entries.map Prod.fst) := by
  induction entries with
  | nil => exact .refl _
  | cons entry rest ih =>
    rw [find?] at absent
    by_cases same : entry.1 = id
    · rw [if_pos same] at absent
      cases absent
    · rw [if_neg same] at absent
      rw [put]
      by_cases below : id < entry.1
      · rw [if_pos below]
        exact .refl _
      · rw [if_neg below, if_neg same, List.map_cons, List.map_cons]
        exact ((ih absent).cons entry.1).trans (List.Perm.swap id entry.1 _)

/-- Writing under an id that a list in ascending order has keeps the ids. -/
theorem map_fst_put {entries : List (Nat × α)} {id : Nat} {old : α}
    (ascending : entries.Pairwise fun left right => left.1 < right.1)
    (found : find? id entries = some old) (value : α) :
    (put id value entries).map Prod.fst = entries.map Prod.fst := by
  induction entries with
  | nil => cases found
  | cons entry rest ih =>
    obtain ⟨first, later⟩ := List.pairwise_cons.1 ascending
    rw [put]
    by_cases same : entry.1 = id
    · rw [if_neg (by omega), if_pos same, List.map_cons, List.map_cons, same]
    · rw [find?, if_neg same] at found
      have above := first _ ((find?_eq_some_iff later).1 found)
      rw [if_neg (by omega), if_neg same, List.map_cons, List.map_cons, ih later found]

/-- In a list in ascending order one entry is under an id that is found. -/
theorem length_filter_of_find? {entries : List (Nat × α)} {id : Nat} {value : α}
    (ascending : entries.Pairwise fun left right => left.1 < right.1)
    (found : find? id entries = some value) :
    (entries.filter fun entry => entry.1 ≠ id).length + 1 = entries.length := by
  induction entries with
  | nil => cases found
  | cons entry rest ih =>
    obtain ⟨first, later⟩ := List.pairwise_cons.1 ascending
    by_cases same : entry.1 = id
    · have untouched : rest.filter (fun other => other.1 ≠ id) = rest := by
        rw [List.filter_eq_self]
        intro other member
        have above := first other member
        rw [decide_eq_true_eq]
        omega
      rw [List.filter_cons_of_neg (by simpa using same), untouched, List.length_cons]
    · rw [find?, if_neg same] at found
      rw [List.filter_cons_of_pos (by simpa using same), List.length_cons, List.length_cons,
        ih later found]

/-- A map gains one id where a new one is written. -/
theorem size_insert {map : IdMap α} {id : Nat} (absent : map.get? id = none) (value : α) :
    (map.insert id value).size = map.size + 1 := by
  have ids := (perm_map_fst_put absent value).length_eq
  rwa [List.length_map, List.length_cons, List.length_map] at ids

/-- Taking out an id that is present leaves one entry less. -/
theorem size_erase {map : IdMap α} {id : Nat} (present : map.contains id = true) :
    (map.erase id).size + 1 = map.size := by
  obtain ⟨value, found⟩ := Option.isSome_iff_exists.1 present
  exact length_filter_of_find? map.ascending found

/-- The map with every value changed. -/
def map (change : α → β) (values : IdMap α) : IdMap β :=
  ⟨values.entries.map fun entry => (entry.1, change entry.2),
    List.pairwise_map.2 values.ascending⟩

/-- Under an id of a changed map is the changed value of that id. -/
theorem get?_map (change : α → β) (values : IdMap α) (id : Nat) :
    (values.map change).get? id = (values.get? id).map change := by
  simp only [get?, map]
  induction values.entries with
  | nil => rfl
  | cons entry rest ih =>
    simp only [List.map_cons, find?]
    split
    · rfl
    · exact ih

/-- A changed map has the ids of the map. -/
theorem contains_map (change : α → β) (values : IdMap α) (id : Nat) :
    (values.map change).contains id = values.contains id := by
  rw [contains, contains, get?_map, Option.isSome_map]

/-- Changing all values twice is changing them once by both changes. -/
theorem map_map {γ : Type} (first : α → β) (second : β → γ) (values : IdMap α) :
    (values.map first).map second = values.map fun value => second (first value) := by
  apply ext
  simp only [map, List.map_map]
  rfl

/-- Writing a value and changing all is changing all and writing the changed value. -/
theorem map_insert (change : α → β) (values : IdMap α) (id : Nat) (value : α) :
    (values.insert id value).map change = (values.map change).insert id (change value) := by
  apply ext
  simp only [map, insert]
  induction values.entries with
  | nil => rfl
  | cons entry rest ih =>
    simp only [put, List.map_cons]
    split
    · rfl
    · split
      · rfl
      · rw [List.map_cons, ih]

/-- Two changes that agree on every value found in a map give the same map. -/
theorem map_congr {first second : α → β} {values : IdMap α}
    (agree : ∀ id value, values.get? id = some value → first value = second value) :
    values.map first = values.map second := by
  apply ext
  apply List.map_congr_left
  intro entry member
  rw [agree entry.1 entry.2 ((mem_entries_iff values entry.1 entry.2).1 member)]

end IdMap

namespace Table

variable {α : Type}

/-- A table has a record under an id exactly when reading the id finds one. -/
theorem contains_eq (table : Table α) (id : Nat) :
    table.contains id = (table.get? id).isSome := rfl

/-- Nothing is read under an id that is absent, and only there. -/
theorem get?_eq_none_iff {table : Table α} {id : Nat} :
    table.get? id = none ↔ table.contains id = false :=
  IdMap.get?_eq_none_iff table.records id

/-- A record under an id is present. -/
theorem contains_of_get? {table : Table α} {id : Nat} {record : α}
    (found : table.get? id = some record) : table.contains id = true := by
  rw [contains_eq, found]
  rfl

/-- An id is present after a write when it is the written one or was present before. -/
theorem contains_set (table : Table α) (id other : Nat) (record : α) :
    (table.set id record).contains other = (id == other || table.contains other) :=
  IdMap.contains_insert table.records id other record

/-- An id that is present stays so when a record is set. -/
theorem contains_set_of_contains {table : Table α} {other : Nat}
    (there : table.contains other = true) (id : Nat) (record : α) :
    (table.set id record).contains other = true := by
  rw [contains_set, there, Bool.or_true]

/-- Setting the record of an id that is present adds no id. -/
theorem contains_set_of_present {table : Table α} {id : Nat} (present : table.contains id = true)
    (record : α) (other : Nat) : (table.set id record).contains other = table.contains other := by
  rw [contains_set]
  by_cases same : id = other
  · rw [← same, present, Bool.or_true]
  · rw [beq_false_of_ne same, Bool.false_or]

/-- What is present after a write is the written record or was present before. -/
theorem eq_or_contains_of_set {table : Table α} {id other : Nat} {record : α}
    (present : (table.set id record).contains other = true) :
    id = other ∨ table.contains other = true := by
  rw [contains_set, Bool.or_eq_true, beq_iff_eq] at present
  exact present

/-- A record that is found is not under an id that is absent. -/
theorem ne_of_get?_of_absent {table : Table α} {id other : Nat} {record : α}
    (found : table.get? other = some record) (absent : table.contains id = false) :
    id ≠ other := by
  intro same
  rw [same, contains_of_get? found] at absent
  contradiction

/-- A table whose ids lie below a bound has nothing from the bound on. -/
theorem absent_of_ids_below {table : Table α} {bound id : Nat}
    (below : ∀ other ∈ table.ids, other < bound) (above : bound ≤ id) :
    table.contains id = false := by
  rw [Bool.eq_false_iff]
  intro present
  have under := below id (IdMap.mem_ids_of_contains present)
  omega

/-- A table that received a record is ready. -/
theorem isReady_set (table : Table α) (id : Nat) (record : α) :
    (table.set id record).isReady = true := by
  simp only [isReady, set, IdMap.isEmpty_insert, Bool.not_false]

/-- A record put under an id that is absent adds the id. -/
theorem perm_ids_set {table : Table α} {id : Nat} (absent : table.contains id = false)
    (record : α) : (table.set id record).ids.Perm (table.ids ++ [id]) := by
  have missing : table.records.get? id = none := (IdMap.get?_eq_none_iff _ _).2 absent
  exact (IdMap.perm_map_fst_put missing record).trans (List.perm_append_singleton id _).symm

/-- A record put under an id that is present keeps the ids. -/
theorem ids_set {table : Table α} {id : Nat} (present : table.contains id = true) (record : α) :
    (table.set id record).ids = table.ids := by
  obtain ⟨old, found⟩ := Option.isSome_iff_exists.1 present
  exact IdMap.map_fst_put table.records.ascending found record

end Table

end Modpack
