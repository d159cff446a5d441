import Mathlib.Data.List.Nodup
import Modpack.Proofs.Registries

/-!
# The two indexes of a registry

A registry keeps its entries in one list and finds them through an index of keys and an index of
the numbers it gave out. A registry is indexed when each of the two leads exactly to the entries
it is about. Placing an entry writes one position of the list, the one of its key or a new one at
the end, and keeps a registry indexed as long as a number it brings along is not in use.
-/
namespace Modpack.Registry

variable {δ : Type} [Definition δ] {registry : Registry δ} {entry : Entry δ}

/-- The indexes lead to the entries they are about and nowhere else. -/
structure Indexed (registry : Registry δ) : Prop where
  /-- A key leads to the position of the entry with this key. -/
  keys : ∀ key position, registry.positions.get? key = some position ↔
    ∃ entry, registry.entries[position]? = some entry ∧ entry.key = key
  /-- A number leads to the position of the entry that makes the record with this number. -/
  numbers : ∀ id position, registry.allocated.get? id = some position ↔
    ∃ entry, registry.entries[position]? = some entry ∧ entry.isPatch = false ∧ entry.id = id

/-- A registry without entries is indexed. -/
theorem indexed_empty (base : Nat) : (empty base : Registry δ).Indexed := by
  constructor <;> simp [empty]

/-- Whether a registry is indexed does not depend on the records last written. -/
theorem Indexed.of_forget_eq {left right : Registry δ} (indexed : right.Indexed)
    (same : left.forget = right.forget) : left.Indexed := by
  have positions : left.positions = right.positions :=
    show left.forget.positions = right.forget.positions from congrArg Registry.positions same
  have allocated : left.allocated = right.allocated :=
    show left.forget.allocated = right.forget.allocated from congrArg Registry.allocated same
  have forgotten (position : Nat) : (left.entries[position]?).map Entry.forget =
      (right.entries[position]?).map Entry.forget := by
    have entries : left.entries.map Entry.forget = right.entries.map Entry.forget :=
      congrArg Registry.entries same
    rw [← List.getElem?_map, ← List.getElem?_map, entries]
  have held (property : Entry δ → Prop) (blind : ∀ entry, property entry.forget = property entry)
      (position : Nat) : (∃ entry, right.entries[position]? = some entry ∧ property entry) ↔
        ∃ entry, left.entries[position]? = some entry ∧ property entry := by
    have told (place : Option (Entry δ)) : (∃ entry, place = some entry ∧ property entry) ↔
        ∃ entry, place.map Entry.forget = some entry ∧ property entry := by
      cases place <;> simp [blind]
    rw [told, told left.entries[position]?, forgotten]
  constructor
  · intro key position
    rw [positions, indexed.keys]
    exact held (fun entry => entry.key = key) (fun _ => rfl) position
  · intro id position
    rw [allocated, indexed.numbers]
    exact held (fun entry => entry.isPatch = false ∧ entry.id = id) (fun _ => rfl) position

/-! ## What the indexes lead to -/

namespace Indexed

/-- An entry is in an indexed registry when its key finds it. -/
theorem byKey?_eq_some_iff (indexed : registry.Indexed) {key : String} :
    registry.byKey? key = some entry ↔ entry ∈ registry.entries ∧ entry.key = key := by
  rw [byKey?, Option.bind_eq_some_iff]
  constructor
  · rintro ⟨position, placed, found⟩
    obtain ⟨other, found', same⟩ := (indexed.keys key position).1 placed
    obtain rfl : other = entry := Option.some.inj (found'.symm.trans found)
    exact ⟨List.mem_of_getElem? found, same⟩
  · rintro ⟨member, same⟩
    obtain ⟨position, found⟩ := List.mem_iff_getElem?.1 member
    exact ⟨position, (indexed.keys key position).2 ⟨entry, found, same⟩, found⟩

/-- A number finds the one entry that makes a record with this number. -/
theorem byId?_eq_some_iff (indexed : registry.Indexed) {id : Nat} :
    registry.byId? id = some entry ↔
      entry ∈ registry.entries ∧ entry.isPatch = false ∧ entry.id = id := by
  rw [byId?, Option.bind_eq_some_iff]
  constructor
  · rintro ⟨position, placed, found⟩
    obtain ⟨other, found', makes, same⟩ := (indexed.numbers id position).1 placed
    obtain rfl : other = entry := Option.some.inj (found'.symm.trans found)
    exact ⟨List.mem_of_getElem? found, makes, same⟩
  · rintro ⟨member, makes, same⟩
    obtain ⟨position, found⟩ := List.mem_iff_getElem?.1 member
    exact ⟨position, (indexed.numbers id position).2 ⟨entry, found, makes, same⟩, found⟩

/-- A number is registered when it finds an entry. -/
theorem isRegistered_eq (indexed : registry.Indexed) (id : Nat) :
    registry.isRegistered id = (registry.byId? id).isSome := by
  rw [isRegistered, Dict.contains, byId?]
  cases placed : registry.allocated.get? id with
  | none => rfl
  | some position =>
    obtain ⟨entry, found, _⟩ := (indexed.numbers id position).1 placed
    rw [Option.bind_some, found]
    rfl

/-- No two entries of an indexed registry have one key. -/
theorem nodup_keys (indexed : registry.Indexed) : (registry.entries.map Entry.key).Nodup := by
  rw [List.nodup_iff_getElem?_ne_getElem?]
  intro first second before inside same
  rw [List.length_map] at inside
  have found : registry.entries[second]? = some registry.entries[second] :=
    List.getElem?_eq_getElem inside
  rw [List.getElem?_map, List.getElem?_map, found, Option.map_some] at same
  obtain ⟨other, found', key⟩ := Option.map_eq_some_iff.1 same
  have atFirst := (indexed.keys _ first).2 ⟨other, found', key⟩
  have atSecond := (indexed.keys _ second).2 ⟨_, found, rfl⟩
  have equal : first = second := Option.some.inj (atFirst.symm.trans atSecond)
  omega

/-- Two entries of an indexed registry that make records with one number are the same entry. -/
theorem eq_of_id_eq (indexed : registry.Indexed) {left right : Entry δ}
    (leftMember : left ∈ registry.entries) (rightMember : right ∈ registry.entries)
    (leftMakes : left.isPatch = false) (rightMakes : right.isPatch = false)
    (same : left.id = right.id) : left = right := by
  have first := indexed.byId?_eq_some_iff.2 ⟨leftMember, leftMakes, rfl⟩
  have second := indexed.byId?_eq_some_iff.2 ⟨rightMember, rightMakes, same.symm⟩
  exact Option.some.inj (first.symm.trans second)

/-- In a registry with the content of an indexed one, two entries that make records with one number
differ in the records last written only. -/
theorem forget_eq_of_id_eq (indexed : registry.Indexed) {other : Registry δ}
    (same : other.forget = registry.forget) {left right : Entry δ}
    (leftMember : left ∈ other.entries) (rightMember : right ∈ other.entries)
    (leftMakes : left.isPatch = false) (rightMakes : right.isPatch = false)
    (sameId : left.id = right.id) : left.forget = right.forget := by
  obtain ⟨first, firstMember, firstSame⟩ := exists_mem_of_forget_eq same leftMember
  obtain ⟨second, secondMember, secondSame⟩ := exists_mem_of_forget_eq same rightMember
  obtain ⟨firstId, _, firstPatch⟩ := Entry.of_forget_eq firstSame
  obtain ⟨secondId, _, secondPatch⟩ := Entry.of_forget_eq secondSame
  have ids : first.id = second.id := firstId.trans (sameId.trans secondId.symm)
  have equal := indexed.eq_of_id_eq firstMember secondMember (firstPatch.trans leftMakes)
    (secondPatch.trans rightMakes) ids
  rw [← firstSame, equal, secondSame]

end Indexed

/-! ## Placing an entry -/

/-- The position an entry with this key would be placed at. -/
def slot (registry : Registry δ) (key : String) : Nat :=
  (registry.positions.get? key).getD registry.entries.length

/-- The position a number has in the index once the entry at a slot was retired. -/
def withoutSlot (registry : Registry δ) (slot id : Nat) : Option Nat :=
  if registry.allocated.get? id = some slot then none else registry.allocated.get? id

section Place

variable (indexed : registry.Indexed)
include indexed

/-- The slot of a key that is present holds its entry; another slot lies behind all entries. -/
theorem Indexed.slot_cases (key : String) :
    (∃ old, registry.positions.get? key = some (registry.slot key) ∧
      registry.entries[registry.slot key]? = some old ∧ old.key = key) ∨
    registry.positions.get? key = none ∧ registry.slot key = registry.entries.length := by
  cases placed : registry.positions.get? key with
  | none => exact .inr ⟨rfl, by rw [slot, placed, Option.getD_none]⟩
  | some position =>
    have same : registry.slot key = position := by rw [slot, placed, Option.getD_some]
    obtain ⟨old, found, key⟩ := (indexed.keys _ position).1 placed
    exact .inl ⟨old, by rw [same], by rw [same, found], key⟩

/-- The slot of a key is not the position of another key. -/
theorem Indexed.slot_ne {key other : String} {position : Nat} (apart : key ≠ other)
    (leads : registry.positions.get? other = some position) : registry.slot key ≠ position := by
  intro here
  obtain ⟨held, found, otherKey⟩ := (indexed.keys other position).1 leads
  rcases indexed.slot_cases key with ⟨old, _, found', oldKey⟩ | ⟨_, behind⟩
  · rw [here, found, Option.some.injEq] at found'
    rw [found'] at otherKey
    exact apart (oldKey.symm.trans otherKey)
  · rw [← here, behind, List.getElem?_eq_none (Nat.le_refl _)] at found
    cases found

/-- Placing an entry writes its slot and no other position. -/
theorem Indexed.entries_place (position : Nat) :
    (registry.place entry).entries[position]? =
      if registry.slot entry.key = position then some entry else registry.entries[position]? := by
  rcases indexed.slot_cases entry.key with ⟨old, placed, found, _⟩ | ⟨absent, slot⟩
  · obtain ⟨inside, _⟩ := List.getElem?_eq_some_iff.1 found
    simp only [place, placed, List.getElem?_set, if_pos inside]
  · simp only [place, absent]
    rw [slot, List.getElem?_append]
    by_cases inside : position < registry.entries.length
    · have apart : registry.entries.length ≠ position := by omega
      rw [if_pos inside, if_neg apart]
    · have behind : registry.entries[position]? = none :=
        List.getElem?_eq_none (Nat.le_of_not_lt inside)
      rw [if_neg inside, behind, List.getElem?_singleton]
      have same : position - registry.entries.length = 0 ↔ registry.entries.length = position := by
        omega
      simp only [same]

/-- Placing an entry lets its key lead to its slot. -/
theorem Indexed.positions_place (key : String) :
    (registry.place entry).positions.get? key =
      if entry.key = key then some (registry.slot entry.key)
      else registry.positions.get? key := by
  rcases indexed.slot_cases entry.key with ⟨old, placed, _, _⟩ | ⟨absent, slot⟩
  · simp only [place, placed]
    by_cases same : entry.key = key
    · rw [if_pos same, ← same, placed]
    · rw [if_neg same]
  · simp only [place, absent]
    rw [Dict.get?_insert, slot]

/-- Placing an entry takes its slot out of the index of numbers, and lets the number of a new
record lead to the slot. -/
theorem Indexed.allocated_place (id : Nat) :
    (registry.place entry).allocated.get? id =
      if entry.isPatch = false ∧ entry.id = id then some (registry.slot entry.key)
      else registry.withoutSlot (registry.slot entry.key) id := by
  have index (allocated : Dict Nat Nat) (position : Nat) :
      (if entry.isPatch then allocated else allocated.insert entry.id position).get? id =
        if entry.isPatch = false ∧ entry.id = id then some position else allocated.get? id := by
    cases entry.isPatch with
    | true => simp
    | false => simp [Dict.get?_insert]
  rcases indexed.slot_cases entry.key with ⟨old, placed, found, _⟩ | ⟨absent, slot⟩
  · have retired : (retire registry.allocated old).get? id =
        registry.withoutSlot (registry.slot entry.key) id := by
      have leads := indexed.numbers id (registry.slot entry.key)
      simp only [found, Option.some.injEq, exists_eq_left'] at leads
      rw [withoutSlot, retire]
      cases makes : old.isPatch with
      | true => simp [leads, makes]
      | false =>
        simp only [makes, true_and] at leads
        simp only [Bool.false_eq_true, if_false, Dict.get?_erase, leads]
    simp only [place, placed, found]
    rw [index, retired]
  · have unused : registry.allocated.get? id ≠ some (registry.slot entry.key) := by
      intro leads
      obtain ⟨other, found, _⟩ := (indexed.numbers id _).1 leads
      rw [slot, List.getElem?_eq_none (Nat.le_refl _)] at found
      cases found
    rw [withoutSlot, if_neg unused]
    simp only [place, absent]
    rw [index, slot]

/-- An entry that is found under a number has another slot than one that is placed, once the slot
was taken out of the index. -/
theorem Indexed.withoutSlot_eq_some_iff {slot id position : Nat} :
    registry.withoutSlot slot id = some position ↔ slot ≠ position ∧
      ∃ entry, registry.entries[position]? = some entry ∧ entry.isPatch = false ∧
        entry.id = id := by
  rw [withoutSlot, ← indexed.numbers]
  by_cases taken : registry.allocated.get? id = some slot
  · rw [if_pos taken, taken]
    simp
  · rw [if_neg taken]
    refine ⟨fun leads => ⟨?_, leads⟩, And.right⟩
    rintro rfl
    exact taken leads

/-- Placing an entry keeps a registry indexed, if no other entry has the number it brings. -/
theorem Indexed.place (fresh : entry.isPatch = false → ∀ other ∈ registry.entries,
      other.isPatch = false → other.id ≠ entry.id) : (registry.place entry).Indexed := by
  constructor
  · intro key position
    rw [indexed.positions_place, indexed.entries_place]
    by_cases same : entry.key = key
    · rw [if_pos same]
      by_cases here : registry.slot entry.key = position
      · rw [if_pos here, here]
        simp [same]
      · rw [if_neg here]
        refine ⟨fun leads => absurd (Option.some.inj leads) here, ?_⟩
        -- The key would lead to this position, which is then its slot.
        intro held
        have leads := (indexed.keys key position).2 held
        rw [← same] at leads
        rw [slot, leads, Option.getD_some] at here
        exact absurd rfl here
    · rw [if_neg same, indexed.keys]
      by_cases here : registry.slot entry.key = position
      · rw [if_pos here]
        constructor
        · intro held
          exact absurd here (indexed.slot_ne same ((indexed.keys key position).2 held))
        · rintro ⟨other, found, key'⟩
          exact absurd (Option.some.inj found ▸ key') same
      · rw [if_neg here]
  · intro id position
    rw [indexed.allocated_place, indexed.entries_place]
    by_cases brings : entry.isPatch = false ∧ entry.id = id
    · rw [if_pos brings]
      by_cases here : registry.slot entry.key = position
      · simp [here, brings]
      · rw [if_neg here]
        refine ⟨fun leads => absurd (Option.some.inj leads) here, ?_⟩
        rintro ⟨other, found, makes, number⟩
        have apart := fresh brings.1 other (List.mem_of_getElem? found) makes
        exact absurd (number.trans brings.2.symm) apart
    · rw [if_neg brings, indexed.withoutSlot_eq_some_iff]
      by_cases here : registry.slot entry.key = position
      · rw [if_pos here]
        simpa [here] using brings
      · simp [here]

/-- A key finds the entry placed last under it. -/
theorem Indexed.byKey?_place (key : String) :
    (registry.place entry).byKey? key =
      if entry.key = key then some entry else registry.byKey? key := by
  rw [byKey?, byKey?, indexed.positions_place]
  by_cases same : entry.key = key
  · rw [if_pos same, if_pos same, Option.bind_some, indexed.entries_place, if_pos rfl]
  · rw [if_neg same, if_neg same]
    cases leads : registry.positions.get? key with
    | none => rfl
    | some position =>
      rw [Option.bind_some, Option.bind_some, indexed.entries_place]
      exact if_neg (indexed.slot_ne same leads)

/-- Placing an entry leaves the order of the keys alone; a new key goes to the end. -/
theorem Indexed.keys_place :
    (registry.place entry).entries.map Entry.key =
      if entry.key ∈ registry.entries.map Entry.key then registry.entries.map Entry.key
      else registry.entries.map Entry.key ++ [entry.key] := by
  rcases indexed.slot_cases entry.key with ⟨old, placed, found, oldKey⟩ | ⟨absent, _⟩
  · have present : entry.key ∈ registry.entries.map Entry.key :=
      List.mem_map.2 ⟨old, List.mem_of_getElem? found, oldKey⟩
    have held : (registry.entries.map Entry.key)[registry.slot entry.key]? = some entry.key := by
      rw [List.getElem?_map, found, Option.map_some, oldKey]
    rw [if_pos present]
    simp only [Registry.place, placed]
    rw [List.map_set]
    refine List.ext_getElem? fun position => ?_
    rw [List.getElem?_set]
    by_cases here : registry.slot entry.key = position
    · obtain ⟨inside, _⟩ := List.getElem?_eq_some_iff.1 held
      rw [if_pos here, if_pos inside, ← here, held]
    · rw [if_neg here]
  · have missing : entry.key ∉ registry.entries.map Entry.key := by
      intro present
      obtain ⟨old, member, key⟩ := List.mem_map.1 present
      obtain ⟨position, found⟩ := List.mem_iff_getElem?.1 member
      have leads := (indexed.keys _ position).2 ⟨old, found, key⟩
      rw [absent] at leads
      cases leads
    rw [if_neg missing]
    simp only [Registry.place, absent, List.map_append, List.map_cons, List.map_nil]

/-! ## Offering a definition -/

/-- Offering a definition keeps a registry indexed, as its counter gives a number that is not in
use. -/
theorem Indexed.accept {known : δ → Prop} (sound : registry.Sound known) (package : PackageInfo)
    (definition : δ) : (registry.accept package definition).Indexed := by
  rw [Registry.accept, register]
  by_cases unnamed : Definition.id definition = ""
  · rw [if_pos unnamed]
    exact indexed
  · rw [if_neg unnamed]
    cases target : Definition.patchTarget? definition with
    | some number =>
      refine indexed.place fun makes => ?_
      simp [Entry.isPatch, target] at makes
    | none =>
      have counted : ({ registry with made := registry.made + 1 } : Registry δ).Indexed :=
        ⟨indexed.keys, indexed.numbers⟩
      exact counted.place fun _ other member makes same => sound.ne_next member makes same

/-- Offering a definition does not change what other keys find. -/
theorem Indexed.byKey?_accept_of_ne {package : PackageInfo} {definition : δ} {key : String}
    (apart : package.qualify (Definition.id definition) ≠ key) :
    (registry.accept package definition).byKey? key = registry.byKey? key := by
  rw [Registry.accept, register]
  by_cases unnamed : Definition.id definition = ""
  · rw [if_pos unnamed]
  · rw [if_neg unnamed]
    cases Definition.patchTarget? definition with
    | some number => exact (indexed.byKey?_place key).trans (if_neg apart)
    | none =>
      have counted : ({ registry with made := registry.made + 1 } : Registry δ).Indexed :=
        ⟨indexed.keys, indexed.numbers⟩
      exact (counted.byKey?_place key).trans (if_neg apart)

end Place

end Modpack.Registry
