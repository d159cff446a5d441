/-!
# Maps from ids in ascending order

A map from natural numbers kept as the list of its entries in strictly ascending order of their
ids, so that two maps with the same entries are the same map (`ext`) and listing the ids needs
no sorting. `get?` is the view, with one law for each operation.
-/
namespace Modpack

/-- Entries under natural numbers, in ascending order. -/
structure IdMap (α : Type) where
  /-- The entries. -/
  entries : List (Nat × α)
  /-- Every id is smaller than those after it. -/
  ascending : entries.Pairwise fun left right => left.1 < right.1

namespace IdMap

variable {α : Type}

/-- The value of the first entry under an id. -/
def find? (id : Nat) : List (Nat × α) → Option α
  | [] => none
  | entry :: rest => if entry.1 = id then some entry.2 else find? id rest

/-- Write an entry into its place. -/
def put (id : Nat) (value : α) : List (Nat × α) → List (Nat × α)
  | [] => [(id, value)]
  | entry :: rest =>
    if id < entry.1 then (id, value) :: entry :: rest
    else if entry.1 = id then (id, value) :: rest
    else entry :: put id value rest

/-- The entries after a write are the written one and entries from before. -/
theorem mem_put {id : Nat} {value : α} {entries : List (Nat × α)} {entry : Nat × α}
    (member : entry ∈ put id value entries) : entry = (id, value) ∨ entry ∈ entries := by
  induction entries with
  | nil => simpa [put] using member
  | cons head rest ih =>
    simp only [put] at member
    split at member
    · simpa using member
    · split at member
      · rcases List.mem_cons.1 member with rfl | inRest
        · exact .inl rfl
        · exact .inr (List.mem_cons_of_mem _ inRest)
      · rcases List.mem_cons.1 member with rfl | inRest
        · exact .inr List.mem_cons_self
        · exact (ih inRest).imp_right (List.mem_cons_of_mem _)

/-- A write keeps the order. -/
theorem ascending_put {id : Nat} {value : α} {entries : List (Nat × α)}
    (ascending : entries.Pairwise fun left right => left.1 < right.1) :
    (put id value entries).Pairwise fun left right => left.1 < right.1 := by
  induction entries with
  | nil => simp [put]
  | cons head rest ih =>
    obtain ⟨first, later⟩ := List.pairwise_cons.1 ascending
    simp only [put]
    split
    · rename_i below
      refine List.pairwise_cons.2 ⟨fun entry member => ?_, ascending⟩
      rcases List.mem_cons.1 member with rfl | inRest
      · exact below
      · exact Nat.lt_trans below (first entry inRest)
    · split
      · rename_i same
        exact List.pairwise_cons.2 ⟨fun entry member => same ▸ first entry member, later⟩
      · rename_i notBelow different
        refine List.pairwise_cons.2 ⟨fun entry member => ?_, ih later⟩
        rcases mem_put member with rfl | inRest
        · show head.1 < id
          omega
        · exact first entry inRest

/-- The map without entries. -/
def empty : IdMap α := ⟨[], List.Pairwise.nil⟩

instance : Inhabited (IdMap α) := ⟨empty⟩

/-- The value under an id. -/
def get? (map : IdMap α) (id : Nat) : Option α :=
  find? id map.entries

/-- Write a value under an id. -/
def insert (map : IdMap α) (id : Nat) (value : α) : IdMap α :=
  ⟨put id value map.entries, ascending_put map.ascending⟩

/-- Take an id out. -/
def erase (map : IdMap α) (id : Nat) : IdMap α :=
  ⟨map.entries.filter fun entry => entry.1 ≠ id, map.ascending.filter _⟩

/-- Whether an id is present. -/
def contains (map : IdMap α) (id : Nat) : Bool :=
  (map.get? id).isSome

/-- The ids, ascending. -/
def ids (map : IdMap α) : List Nat :=
  map.entries.map Prod.fst

/-- How many ids are present. -/
def size (map : IdMap α) : Nat :=
  map.entries.length

/-- Whether no id is present. -/
def isEmpty (map : IdMap α) : Bool :=
  map.entries.isEmpty

@[simp] theorem get?_empty (id : Nat) : (empty : IdMap α).get? id = none := rfl

/-- What a list holds under an id after a write. -/
theorem find?_put (id other : Nat) (value : α) (entries : List (Nat × α)) :
    find? other (put id value entries) = if id = other then some value
      else find? other entries := by
  induction entries with
  | nil => simp [put, find?]
  | cons entry rest ih =>
    simp only [put]
    split
    · simp [find?]
    · split
      · rename_i same
        subst same
        by_cases equal : entry.1 = other <;> simp [find?, equal]
      · rename_i different
        simp only [find?, ih]
        by_cases equal : entry.1 = other
        · have apart : ¬ id = other := fun same => different (equal.trans same.symm)
          simp [equal, apart]
        · simp [equal]

/-- An id holds what was last written under it. -/
theorem get?_insert (map : IdMap α) (id other : Nat) (value : α) :
    (map.insert id value).get? other = if id = other then some value else map.get? other :=
  find?_put id other value map.entries

/-- What a list holds under an id after an id was taken out. -/
theorem find?_filter (id other : Nat) (entries : List (Nat × α)) :
    find? other (entries.filter fun entry => entry.1 ≠ id) =
      if id = other then none else find? other entries := by
  induction entries with
  | nil => simp [find?]
  | cons entry rest ih =>
    by_cases same : entry.1 = id
    · subst same
      by_cases equal : entry.1 = other
      · simpa [equal] using ih
      · simp only [List.filter_cons, ne_eq, not_true_eq_false, decide_false, Bool.false_eq_true,
          if_false, find?, equal] at ih ⊢
        exact ih
    · by_cases equal : entry.1 = other
      · have apart : ¬ other = id := fun reached => same (equal.trans reached)
        have apart' : ¬ id = other := fun reached => apart reached.symm
        simp [find?, equal, apart, apart']
      · simp only [List.filter_cons, ne_eq, same, not_false_eq_true, decide_true, if_true, find?,
          equal, if_false] at ih ⊢
        exact ih

/-- An id that was taken out is absent and all others are as before. -/
theorem get?_erase (map : IdMap α) (id other : Nat) :
    (map.erase id).get? other = if id = other then none else map.get? other :=
  find?_filter id other map.entries

end IdMap

end Modpack
