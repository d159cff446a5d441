/-!
# Dictionaries in order of first insertion

A dictionary is a list of keyed entries with distinct keys. Writing under a key that is present
replaces the value where it stands; a new key goes to the end. `get?` is the view: what each
operation does is stated through it, and no two entries ever share a key.
-/
namespace Modpack

/-- Keyed entries with distinct keys, in the order their keys were first written. -/
structure Dict (κ α : Type) where
  /-- The entries. -/
  entries : List (κ × α)
  /-- No key stands twice. -/
  distinct : (entries.map Prod.fst).Nodup
deriving DecidableEq, Repr

namespace Dict

variable {κ α : Type} [DecidableEq κ]

/-- The value of the first entry under a key. -/
def find? (key : κ) : List (κ × α) → Option α
  | [] => none
  | entry :: rest => if entry.1 = key then some entry.2 else find? key rest

/-- Replace the first entry under a key, or add one at the end. -/
def put (key : κ) (value : α) : List (κ × α) → List (κ × α)
  | [] => [(key, value)]
  | entry :: rest =>
    if entry.1 = key then (key, value) :: rest else entry :: put key value rest

/-- Writing a key adds it to the keys at the end, or leaves them as they were. -/
theorem keys_put (key : κ) (value : α) (entries : List (κ × α)) :
    (put key value entries).map Prod.fst =
      if key ∈ entries.map Prod.fst then entries.map Prod.fst
      else entries.map Prod.fst ++ [key] := by
  induction entries with
  | nil => simp [put]
  | cons entry rest ih =>
    by_cases same : entry.1 = key
    · simp [put, same]
    · have other : ¬ key = entry.1 := fun equal => same equal.symm
      simp only [put, if_neg same, List.map_cons, ih, List.mem_cons, other, false_or]
      split <;> simp

/-- Writing a key keeps keys distinct. -/
theorem nodup_put {key : κ} {value : α} {entries : List (κ × α)}
    (distinct : (entries.map Prod.fst).Nodup) : ((put key value entries).map Prod.fst).Nodup := by
  rw [keys_put]
  split
  · exact distinct
  · rename_i absent
    exact List.nodup_append.2 ⟨distinct, by simp, by
      intro left leftIn right rightIn same
      rw [List.mem_singleton.1 rightIn] at same
      exact absent (same ▸ leftIn)⟩

/-- The dictionary without entries. -/
def empty : Dict κ α := ⟨[], List.nodup_nil⟩

instance : Inhabited (Dict κ α) := ⟨empty⟩

/-- The value under a key. -/
def get? (dict : Dict κ α) (key : κ) : Option α :=
  find? key dict.entries

/-- Write a value under a key. -/
def insert (dict : Dict κ α) (key : κ) (value : α) : Dict κ α :=
  ⟨put key value dict.entries, nodup_put dict.distinct⟩

/-- Take a key out. -/
def erase (dict : Dict κ α) (key : κ) : Dict κ α :=
  ⟨dict.entries.filter fun entry => entry.1 ≠ key,
    dict.distinct.sublist (List.filter_sublist.map Prod.fst)⟩

/-- Whether a key is present. -/
def contains (dict : Dict κ α) (key : κ) : Bool :=
  (dict.get? key).isSome

/-- How many keys are present. -/
def size (dict : Dict κ α) : Nat :=
  dict.entries.length

/-- The dictionary of a list of entries; of several under one key the last counts. -/
def ofList (entries : List (κ × α)) : Dict κ α :=
  entries.foldl (fun dict entry => dict.insert entry.1 entry.2) empty

@[simp] theorem get?_empty (key : κ) : (empty : Dict κ α).get? key = none := rfl

/-- What a list holds under a key after another, or the same, key was written. -/
theorem find?_put (key other : κ) (value : α) (entries : List (κ × α)) :
    find? other (put key value entries) = if key = other then some value
      else find? other entries := by
  induction entries with
  | nil => simp [put, find?]
  | cons entry rest ih =>
    simp only [put]
    split
    · rename_i same
      subst same
      by_cases equal : entry.1 = other <;> simp [find?, equal]
    · rename_i different
      simp only [find?, ih]
      by_cases equal : entry.1 = other
      · have apart : ¬ key = other := fun same => different (equal.trans same.symm)
        simp [equal, apart]
      · simp [equal]

/-- A key holds what was last written under it. -/
theorem get?_insert (dict : Dict κ α) (key other : κ) (value : α) :
    (dict.insert key value).get? other = if key = other then some value
      else dict.get? other :=
  find?_put key other value dict.entries

/-- What a list holds under a key after a key was taken out. -/
theorem find?_filter (key other : κ) (entries : List (κ × α)) :
    find? other (entries.filter fun entry => entry.1 ≠ key) =
      if key = other then none else find? other entries := by
  induction entries with
  | nil => simp [find?]
  | cons entry rest ih =>
    by_cases same : entry.1 = key
    · subst same
      by_cases equal : entry.1 = other
      · simpa [equal] using ih
      · simp only [List.filter_cons, ne_eq, not_true_eq_false, decide_false, Bool.false_eq_true,
          if_false, find?, equal] at ih ⊢
        exact ih
    · by_cases equal : entry.1 = other
      · have apart : ¬ other = key := fun reached => same (equal.trans reached)
        have apart' : ¬ key = other := fun reached => apart reached.symm
        simp [find?, equal, apart, apart']
      · simp only [List.filter_cons, ne_eq, same, not_false_eq_true, decide_true, if_true, find?,
          equal, if_false] at ih ⊢
        exact ih

/-- A key that was taken out is absent and all others are as before. -/
theorem get?_erase (dict : Dict κ α) (key other : κ) :
    (dict.erase key).get? other = if key = other then none else dict.get? other :=
  find?_filter key other dict.entries

end Dict

end Modpack
