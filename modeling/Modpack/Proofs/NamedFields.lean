import Mathlib.Data.List.Basic
import Modpack.Document.Fields

/-!
# What named fields say

A record of named fields says a value for each field that is written, or nothing at all when a
field is written twice. What it says does not depend on the order of its entries, nor on entries
that no field answers to, nor on which of its names a field is written under.
-/
namespace Modpack.Document

variable {schema : List Field} {name : String} {value : Value} {fields : List (String × Value)}

/-- The field that an entry is written for, under its own name, with the value of the entry. -/
def own? (schema : List Field) (entry : String × Value) : Option (String × Value) :=
  (schema.find? (·.answersTo entry.1)).map fun field => (field.name, entry.2)

/-- What a record says: the value written for each field, if no field is written twice. -/
def stated? (schema : List Field) (fields : List (String × Value)) :
    Option (String → Option Value) :=
  (named? schema fields).map fun found name => found.lookup name

/-- Looking up a name gives nothing exactly if it is the name of no entry. -/
theorem lookup_eq_none_iff_not_mem {found : Found} :
    found.lookup name = none ↔ name ∉ found.map Prod.fst := by
  simp only [List.lookup_eq_none_iff, List.mem_map, not_exists, not_and]
  refine forall₂_congr fun entry _ => ?_
  rw [bne_iff_ne, ne_comm]

/-- Where names stand once, looking one up gives the value it stands with. -/
theorem lookup_eq_some_iff_mem {found : Found} (once : (found.map Prod.fst).Nodup) :
    found.lookup name = some value ↔ (name, value) ∈ found := by
  induction found with
  | nil => simp
  | cons entry rest ih =>
    obtain ⟨other, held⟩ := entry
    rw [List.map_cons, List.nodup_cons] at once
    by_cases same : name = other
    · subst same
      have absent : (name, value) ∉ rest := fun member =>
        once.1 (List.mem_map.2 ⟨(name, value), member, rfl⟩)
      simp [absent, @eq_comm _ held]
    · have apart : (name == other) = false := beq_false_of_ne same
      rw [List.lookup_cons, apart, ih once.2]
      simp [same]

/-- The entries that fields answer to are what is found, if no field is written twice. -/
theorem named?_eq_some_iff {found : Found} : named? schema fields = some found ↔
    found = fields.filterMap (own? schema) ∧ (found.map Prod.fst).Nodup := by
  induction fields generalizing found with
  | nil =>
    rw [named?, List.filterMap_nil, Option.some.injEq]
    constructor
    · rintro rfl
      exact ⟨rfl, List.nodup_nil⟩
    · exact fun empty => empty.1.symm
  | cons entry rest ih =>
    obtain ⟨name, value⟩ := entry
    rw [named?, Option.bind_eq_bind, Option.bind_eq_some_iff]
    cases answering : schema.find? (·.answersTo name) with
    | none =>
      have unknown : own? schema (name, value) = none := by rw [own?, answering]; rfl
      rw [List.filterMap_cons_none unknown, ← ih]
      simp
    | some field =>
      have known : own? schema (name, value) = some (field.name, value) := by
        rw [own?, answering]; rfl
      rw [List.filterMap_cons_some known]
      constructor
      · rintro ⟨before, names, added⟩
        obtain ⟨isBefore, once⟩ := ih.1 names
        cases written : before.lookup field.name with
        | some other => simp [written] at added
        | none =>
          simp only [written, Option.isSome_none, Bool.false_eq_true, if_false,
            Option.some.injEq] at added
          rw [← added, isBefore]
          rw [isBefore] at written once
          exact ⟨rfl, List.nodup_cons.2 ⟨lookup_eq_none_iff_not_mem.1 written, once⟩⟩
      · rintro ⟨rfl, once⟩
        rw [List.map_cons, List.nodup_cons] at once
        refine ⟨_, ih.2 ⟨rfl, once.2⟩, ?_⟩
        simp [lookup_eq_none_iff_not_mem.2 once.1]

/-! ## What is said of each field -/

/-- What a record says, it says in any other order too. -/
theorem stated?_of_perm {other : List (String × Value)} (permuted : fields.Perm other)
    {said : String → Option Value} (isStated : stated? schema fields = some said) :
    stated? schema other = some said := by
  obtain ⟨found, names, rfl⟩ := Option.map_eq_some_iff.1 isStated
  obtain ⟨rfl, once⟩ := named?_eq_some_iff.1 names
  have owned := permuted.filterMap (own? schema)
  have onceToo := (owned.map Prod.fst).nodup_iff.1 once
  refine Option.map_eq_some_iff.2 ⟨_, named?_eq_some_iff.2 ⟨rfl, onceToo⟩, ?_⟩
  funext name
  ext value
  rw [lookup_eq_some_iff_mem once, lookup_eq_some_iff_mem onceToo, owned.mem_iff]

/-- The order of entries says nothing. -/
theorem stated?_perm {other : List (String × Value)} (permuted : fields.Perm other) :
    stated? schema fields = stated? schema other := by
  ext1 said
  exact ⟨stated?_of_perm permuted, stated?_of_perm permuted.symm⟩

/-- An entry that no field answers to says nothing. -/
theorem stated?_unknown (unknown : schema.find? (·.answersTo name) = none) :
    stated? schema ((name, value) :: fields) = stated? schema fields := by
  rw [stated?, stated?, named?]
  simp [unknown]

/-- An entry that a field answers to says the value of this field, which must not be written a
second time. -/
theorem stated?_known {field : Field} (known : schema.find? (·.answersTo name) = some field) :
    stated? schema ((name, value) :: fields) = (stated? schema fields).bind fun said =>
      if (said field.name).isSome then none
      else some (Function.update said field.name (some value)) := by
  rw [stated?, stated?, named?]
  cases named? schema fields with
  | none => rfl
  | some found =>
    simp only [Option.bind_eq_bind, Option.bind_some, known, Option.map_some]
    split
    · rfl
    · rw [Option.map_some, Option.some.injEq]
      funext other
      by_cases same : other = field.name
      · rw [same, List.lookup_cons_self, Function.update_self]
      · have apart : (other == field.name) = false := beq_false_of_ne same
        rw [List.lookup_cons, apart, Function.update_of_ne same]

/-- Nothing is stated under a name when no entry is written for a field of this name. -/
theorem stated?_absent {stated : String → Option Value}
    (states : stated? schema fields = some stated)
    (absent : ∀ entry ∈ fields, ∀ field, schema.find? (·.answersTo entry.1) = some field →
      field.name ≠ name) :
    stated name = none := by
  obtain ⟨found, names, rfl⟩ := Option.map_eq_some_iff.1 states
  obtain ⟨rfl, _⟩ := named?_eq_some_iff.1 names
  rw [lookup_eq_none_iff_not_mem]
  intro member
  obtain ⟨own, owned, isName⟩ := List.mem_map.1 member
  obtain ⟨entry, inside, isOwn⟩ := List.mem_filterMap.1 owned
  obtain ⟨field, answering, rfl⟩ := Option.map_eq_some_iff.1 isOwn
  exact absent entry inside field answering isName

/-- Entries for different fields, each under the field's own name, say what they hold. -/
theorem stated?_of_own (own : ∀ entry ∈ fields, own? schema entry = some entry)
    (once : (fields.map Prod.fst).Nodup) :
    stated? schema fields = some fun name => fields.lookup name := by
  have all : fields.filterMap (own? schema) = fields := by
    rw [List.filterMap_congr own, List.filterMap_some]
  exact Option.map_eq_some_iff.2 ⟨fields, named?_eq_some_iff.2 ⟨all.symm, once⟩, rfl⟩

end Modpack.Document
