import Modpack.Proofs.Passes

/-!
# What registering does to a registry

A registry that is given definitions one after another holds entries of these definitions only;
those that make new records have numbers that its counter gave. While the counter stays in its
range these lie from the base on. Registering, looking up and probing do not depend on the records
last written for the entries, so they commute with forgetting these.
-/
namespace Modpack.Registry

variable {δ : Type}

/-! ## Registering -/

section Accept

variable [Definition δ]

/-- The registry after a definition was offered to it; one that is refused changes nothing. -/
def accept (registry : Registry δ) (package : PackageInfo) (definition : δ) : Registry δ :=
  match registry.register package definition with
  | .ok registered => registered.2
  | .error _ => registry

/-- The registry after definitions were offered to it in order. -/
def acceptAll (registry : Registry δ) (package : PackageInfo) (definitions : List δ) :
    Registry δ :=
  definitions.foldl (fun registry definition => registry.accept package definition) registry

/-- The entries after one was placed are that one and entries from before. -/
theorem mem_place {registry : Registry δ} {entry other : Entry δ}
    (member : other ∈ (registry.place entry).entries) :
    other = entry ∨ other ∈ registry.entries := by
  rw [place] at member
  split at member
  · rcases List.mem_or_eq_of_mem_set member with old | new
    · exact .inr old
    · exact .inl new
  · rcases List.mem_append.1 member with old | new
    · exact .inr old
    · exact .inl (List.mem_singleton.1 new)

/-- Placing an entry leaves the counter alone. -/
theorem counter_place (registry : Registry δ) (entry : Entry δ) :
    (registry.place entry).base = registry.base ∧
      (registry.place entry).made = registry.made := by
  rw [place]
  split <;> exact ⟨rfl, rfl⟩

/-- No number was given after the largest one, so the counter has not come round to zero. -/
def InRange (registry : Registry δ) : Prop :=
  registry.base + registry.made ≤ Whole.idLimit

instance (registry : Registry δ) : Decidable registry.InRange :=
  inferInstanceAs (Decidable (_ ≤ _))

/-- Numbers for new records are numbers that the counter gave, and every entry comes from a
definition of a known kind. -/
structure Sound (registry : Registry δ) (known : δ → Prop) : Prop where
  /-- Entries of new records have numbers that the counter gave. -/
  numbered : ∀ entry ∈ registry.entries, entry.isPatch = false →
    ∃ earlier < registry.made, entry.id = countFrom registry.base earlier
  /-- Entries are of known definitions. -/
  known : ∀ entry ∈ registry.entries, known entry.definition

/-- The counter has not given the next number to any entry. -/
theorem Sound.ne_next {registry : Registry δ} {known : δ → Prop} (sound : registry.Sound known)
    {entry : Entry δ} (member : entry ∈ registry.entries) (makes : entry.isPatch = false) :
    entry.id ≠ registry.next := by
  obtain ⟨earlier, before, number⟩ := sound.numbered entry member makes
  rw [number, next, ne_eq, countFrom_inj]
  omega

/-- While the counter is in range, numbers for new records are from its base on and below the next
number. -/
theorem Sound.bounds {registry : Registry δ} {known : δ → Prop} (sound : registry.Sound known)
    (inRange : registry.InRange) {entry : Entry δ} (member : entry ∈ registry.entries)
    (makes : entry.isPatch = false) :
    registry.base ≤ entry.id ∧ entry.id < registry.base + registry.made := by
  obtain ⟨earlier, before, number⟩ := sound.numbered entry member makes
  have inside : registry.base + earlier < Whole.idLimit := by
    have last := inRange
    unfold InRange at last
    omega
  rw [number, countFrom_of_lt inside]
  omega

/-- A registry without entries is sound. -/
theorem sound_empty (base : Nat) (known : δ → Prop) : (empty base).Sound known := by
  constructor
  · intro entry member
    cases member
  · intro entry member
    cases member

/-- Placing an entry of a known definition, numbered as it should be, keeps a registry sound. -/
theorem Sound.place {registry : Registry δ} {known : δ → Prop} (sound : registry.Sound known)
    {entry : Entry δ} (numbered : entry.isPatch = false →
      ∃ earlier < registry.made, entry.id = countFrom registry.base earlier)
    (isKnown : known entry.definition) : (registry.place entry).Sound known := by
  obtain ⟨base, made⟩ := counter_place registry entry
  constructor
  · intro other member makes
    rw [base, made]
    rcases mem_place member with rfl | old
    · exact numbered makes
    · exact sound.numbered other old makes
  · intro other member
    rcases mem_place member with rfl | old
    · exact isKnown
    · exact sound.known other old

/-- Offering a definition keeps a registry sound, if it is known unless its id is empty. -/
theorem Sound.accept {registry : Registry δ} {known : δ → Prop} (sound : registry.Sound known)
    (package : PackageInfo) (definition : δ)
    (isKnown : Definition.id definition ≠ "" → known definition) :
    (registry.accept package definition).Sound known ∧
      (registry.accept package definition).base = registry.base := by
  rw [Registry.accept, register]
  by_cases unnamed : Definition.id definition = ""
  · rw [if_pos unnamed]
    exact ⟨sound, rfl⟩
  · rw [if_neg unnamed]
    cases target : Definition.patchTarget? definition with
    | some target' =>
      refine ⟨sound.place ?_ (isKnown unnamed), (counter_place registry _).1⟩
      intro makes
      simp [Entry.isPatch, target] at makes
    | none =>
      have counted : ({ registry with made := registry.made + 1 } : Registry δ).Sound known := by
        refine ⟨?_, sound.known⟩
        intro entry member makes
        obtain ⟨earlier, before, number⟩ := sound.numbered entry member makes
        exact ⟨earlier, Nat.lt_succ_of_lt before, number⟩
      refine ⟨counted.place ?_ (isKnown unnamed), (counter_place _ _).1⟩
      intro _
      exact ⟨registry.made, Nat.lt_succ_self registry.made, rfl⟩

/-- Offering definitions keeps a registry sound, if those with an id are known. -/
theorem Sound.acceptAll {registry : Registry δ} {known : δ → Prop} (sound : registry.Sound known)
    (package : PackageInfo) {definitions : List δ}
    (isKnown : ∀ definition ∈ definitions, Definition.id definition ≠ "" → known definition) :
    (registry.acceptAll package definitions).Sound known ∧
      (registry.acceptAll package definitions).base = registry.base := by
  induction definitions generalizing registry with
  | nil => exact ⟨sound, rfl⟩
  | cons definition rest ih =>
    obtain ⟨next, base⟩ := sound.accept package definition (isKnown definition List.mem_cons_self)
    obtain ⟨final, base'⟩ := ih next fun other member =>
      isKnown other (List.mem_cons_of_mem definition member)
    exact ⟨final, base'.trans base⟩

end Accept

/-! ## Forgetting what was written -/

/-- A registry without the records last written for its entries. -/
def forget (registry : Registry δ) : Registry δ :=
  { registry with entries := registry.entries.map Entry.forget }

/-- Replacing the entries by ones that differ in the written records only does not show once
these are forgotten. -/
theorem forget_of_entries {registry : Registry δ} {entries : List (Entry δ)}
    (same : entries.map Entry.forget = registry.entries.map Entry.forget) :
    ({ registry with entries := entries } : Registry δ).forget = registry.forget := by
  rw [forget, forget, same]

/-- The entry of a registry belongs to any registry with the same content, but for the record
last written. -/
theorem exists_mem_of_forget_eq {left right : Registry δ} (same : left.forget = right.forget)
    {entry : Entry δ} (member : entry ∈ left.entries) :
    ∃ other ∈ right.entries, other.forget = entry.forget := by
  have entries : left.entries.map Entry.forget = right.entries.map Entry.forget :=
    congrArg Registry.entries same
  have forgotten : entry.forget ∈ right.entries.map Entry.forget := by
    rw [← entries]
    exact List.mem_map_of_mem member
  exact List.mem_map.1 forgotten

/-- Registries with the same content count from the same base. -/
theorem base_of_forget_eq {left right : Registry δ} (same : left.forget = right.forget) :
    left.base = right.base :=
  show left.forget.base = right.forget.base from congrArg Registry.base same

/-- Registries with the same content have given equally many numbers. -/
theorem made_of_forget_eq {left right : Registry δ} (same : left.forget = right.forget) :
    left.made = right.made :=
  show left.forget.made = right.forget.made from congrArg Registry.made same

/-- Of registries with the same content both counters are in range or none is. -/
theorem InRange.of_forget_eq {left right : Registry δ} (inRange : left.InRange)
    (same : left.forget = right.forget) : right.InRange := by
  rw [InRange, ← base_of_forget_eq same, ← made_of_forget_eq same]
  exact inRange

/-- Soundness does not depend on the written records. -/
theorem Sound.of_forget_eq [Definition δ] {left right : Registry δ} {known : δ → Prop}
    (sound : right.Sound known) (same : left.forget = right.forget) : left.Sound known := by
  have base : left.base = right.base := base_of_forget_eq same
  have made : left.made = right.made := made_of_forget_eq same
  constructor
  · intro entry member makes
    obtain ⟨other, otherMember, forgotten⟩ := exists_mem_of_forget_eq same member
    obtain ⟨id, _, isPatch⟩ := Entry.of_forget_eq forgotten
    rw [base, made, ← id]
    exact sound.numbered other otherMember (isPatch.trans makes)
  · intro entry member
    obtain ⟨other, otherMember, forgotten⟩ := exists_mem_of_forget_eq same member
    obtain ⟨_, definition, _⟩ := Entry.of_forget_eq forgotten
    rw [← definition]
    exact sound.known other otherMember

section Probes

/-- Whether a number is registered does not depend on the written records. -/
theorem isRegistered_forget (registry : Registry δ) (id : Nat) :
    registry.forget.isRegistered id = registry.isRegistered id := rfl

/-- What a key finds does not depend on the written records, apart from its own. -/
theorem byKey?_forget (registry : Registry δ) (key : String) :
    registry.forget.byKey? key = (registry.byKey? key).map Entry.forget := by
  rw [byKey?, byKey?]
  change (registry.positions.get? key).bind _ = _
  cases registry.positions.get? key with
  | none => rfl
  | some position => exact List.getElem?_map

variable [Definition δ]

/-- Placing an entry for which nothing was written commutes with forgetting. -/
theorem place_forget (registry : Registry δ) {entry : Entry δ}
    (new : entry.forget = entry) :
    (registry.place entry).forget = registry.forget.place entry := by
  have length : registry.forget.entries.length = registry.entries.length := List.length_map _
  have positions : registry.forget.positions = registry.positions := rfl
  rw [place, place, positions]
  cases registry.positions.get? entry.key with
  | some position =>
    have replaced : registry.forget.entries[position]? =
        (registry.entries[position]?).map Entry.forget := List.getElem?_map
    cases old : registry.entries[position]? with
    | none =>
      simp only [replaced, old, Option.map_none]
      simp only [forget, List.map_set, new]
    | some old' =>
      simp only [replaced, old, Option.map_some]
      simp only [forget, List.map_set, new]
      rfl
  | none =>
    simp only [length]
    simp only [forget, List.map_append, List.map_cons, List.map_nil, new]

/-- Offering a definition commutes with forgetting. -/
theorem accept_forget (registry : Registry δ) (package : PackageInfo) (definition : δ) :
    (registry.accept package definition).forget = registry.forget.accept package definition := by
  rw [accept, accept, register, register]
  by_cases unnamed : Definition.id definition = ""
  · rw [if_pos unnamed, if_pos unnamed]
  · rw [if_neg unnamed, if_neg unnamed]
    cases Definition.patchTarget? definition with
    | some target => exact place_forget registry rfl
    | none => exact place_forget { registry with made := registry.made + 1 } rfl

/-- Offering definitions commutes with forgetting. -/
theorem acceptAll_forget (registry : Registry δ) (package : PackageInfo)
    (definitions : List δ) :
    (registry.acceptAll package definitions).forget =
      registry.forget.acceptAll package definitions := by
  induction definitions generalizing registry with
  | nil => rfl
  | cons definition rest ih =>
    refine (ih (registry.accept package definition)).trans ?_
    rw [accept_forget]
    rfl

/-- The probe for the first number does not see the written records. -/
theorem needsInjection_forget (registry : Registry δ) (contains : Nat → Bool) :
    registry.forget.needsInjection contains = registry.needsInjection contains := by
  have first : registry.forget.firstAllocated? = registry.firstAllocated? := by
    rw [firstAllocated?, firstAllocated?, forget, List.find?_map, Option.map_map]
    rfl
  rw [needsInjection, needsInjection, first]

end Probes

/-- Resolving a reference to an item does not see the written records. -/
theorem resolveItem?_forget (registry : Registry ItemDefinition) (package : String)
    (reference : ItemRef) :
    registry.forget.resolveItem? package reference = registry.resolveItem? package reference := by
  have byName (name : String) : registry.forget.byName? name =
      (registry.byName? name).map Entry.forget := by
    rw [byName?, byName?]
    by_cases unnamed : name = ""
    · rw [if_pos unnamed, if_pos unnamed]
      rfl
    · have named : (registry.forget.entries.filter fun entry => hasName entry.key name) =
          (registry.entries.filter fun entry => hasName entry.key name).map Entry.forget :=
        List.filter_map
      rw [if_neg unnamed, if_neg unnamed, named]
      clear named
      generalize (registry.entries.filter fun entry => hasName entry.key name) = found
      rcases found with _ | ⟨entry, _ | ⟨next, rest⟩⟩ <;> rfl
  cases reference with
  | id number => rfl
  | name name =>
    rw [resolveItem?, resolveItem?]
    split
    · rfl
    · rw [byKey?_forget, byKey?_forget, byName, ← Option.map_or, ← Option.map_or, Option.map_map]
      rfl

/-- Registries with the same content resolve references to items alike. -/
theorem resolveItem?_of_forget_eq {left right : Registry ItemDefinition}
    (same : left.forget = right.forget) (package : String) (reference : ItemRef) :
    left.resolveItem? package reference = right.resolveItem? package reference := by
  rw [← resolveItem?_forget, same, resolveItem?_forget]

end Modpack.Registry
