import Mathlib.Data.List.Induction
import Modpack.Proofs.Indexes

/-!
# The account of a registry

Definitions are offered to a registry one after another; one without an id is refused. What the
registry then says about keys and numbers is told from the offers alone: a key stands for the last
definition taken under it, keys are listed in the order they were first taken, and a definition
that makes a new record has the number that counts the ones taken before it. No number is given
out twice, and one that went out of use stays so whatever is offered later. While the counter is in
range, the number is the base and one for each of the ones before.
-/
namespace Modpack

variable {δ : Type} [Definition δ]

/-- A definition that a package offers to a registry. -/
structure Offer (δ : Type) where
  /-- The package. -/
  package : PackageInfo
  /-- The definition. -/
  definition : δ

namespace Offer

/-- The key the definition is offered under. -/
def key (offer : Offer δ) : String :=
  offer.package.qualify (Definition.id offer.definition)

/-- Whether the definition is taken, which it is if it has an id. -/
def isTaken (offer : Offer δ) : Bool :=
  Definition.id offer.definition != ""

/-- Whether the definition is taken and makes a new record. -/
def makesRecord (offer : Offer δ) : Bool :=
  offer.isTaken && (Definition.patchTarget? offer.definition).isNone

/-- The number of the definition after earlier offers: the target of a patch, or else the one that
the counter gives after one for every earlier definition that made a record. -/
def number (base : Nat) (earlier : List (Offer δ)) (offer : Offer δ) : Nat :=
  (Definition.patchTarget? offer.definition).getD (countFrom base (earlier.countP makesRecord))

/-- The entry of the definition after earlier offers. -/
def entry (base : Nat) (earlier : List (Offer δ)) (offer : Offer δ) : Entry δ :=
  { key := offer.key
    id := offer.number base earlier
    package := offer.package
    definition := offer.definition }

/-- The entry is that of the last definition taken under a key. -/
def LastTaken (base : Nat) (offers : List (Offer δ)) (key : String) (entry : Entry δ) : Prop :=
  ∃ earlier offer later, offers = earlier ++ offer :: later ∧ offer.isTaken = true ∧
    offer.key = key ∧ (∀ next ∈ later, next.isTaken = true → next.key ≠ key) ∧
    entry = offer.entry base earlier

/-- The last definition taken under a key is the one offered last, if that has the key, and is
otherwise told from the offers before. -/
theorem lastTaken_append_singleton {base : Nat} {offers : List (Offer δ)} {offer : Offer δ}
    {key : String} {entry : Entry δ} :
    LastTaken base (offers ++ [offer]) key entry ↔
      if offer.isTaken = true ∧ offer.key = key then entry = offer.entry base offers
      else LastTaken base offers key entry := by
  by_cases counts : offer.isTaken = true ∧ offer.key = key
  · rw [if_pos counts]
    constructor
    · rintro ⟨earlier, other, later, split, _, _, last, same⟩
      rcases List.eq_nil_or_concat' later with rfl | ⟨front, next, rfl⟩
      · obtain ⟨rfl, equal⟩ := List.append_inj' split rfl
        rw [List.singleton_inj.1 equal, same]
      · rw [← List.cons_append, ← List.append_assoc] at split
        obtain ⟨_, equal⟩ := List.append_inj' split rfl
        have inLater : offer ∈ front ++ [next] := by
          rw [List.singleton_inj.1 equal]
          simp
        exact absurd counts.2 (last offer inLater counts.1)
    · intro same
      refine ⟨offers, offer, [], rfl, counts.1, counts.2, ?_, same⟩
      intro next member
      cases member
  · rw [if_neg counts]
    constructor
    · rintro ⟨earlier, other, later, split, taken, otherKey, last, same⟩
      rcases List.eq_nil_or_concat' later with rfl | ⟨front, next, rfl⟩
      · obtain ⟨_, equal⟩ := List.append_inj' split rfl
        rw [List.singleton_inj.1 equal] at counts
        exact absurd ⟨taken, otherKey⟩ counts
      · rw [← List.cons_append, ← List.append_assoc] at split
        obtain ⟨equal, _⟩ := List.append_inj' split rfl
        exact ⟨earlier, other, front, equal, taken, otherKey,
          fun next member => last next (List.mem_append_left _ member), same⟩
    · rintro ⟨earlier, other, later, split, taken, otherKey, last, same⟩
      refine ⟨earlier, other, later ++ [offer], ?_, taken, otherKey, ?_, same⟩
      · rw [split, List.append_assoc, List.cons_append]
      · intro next member nextTaken nextKey
        rcases List.mem_append.1 member with inLater | isOffer
        · exact last next inLater nextTaken nextKey
        · rw [List.mem_singleton.1 isOffer] at nextTaken nextKey
          exact counts ⟨nextTaken, nextKey⟩

/-- A definition that makes a record has the number that counts the ones before it. -/
theorem number_of_makesRecord {offer : Offer δ} (makes : offer.makesRecord = true) (base : Nat)
    (earlier : List (Offer δ)) :
    offer.number base earlier = countFrom base (earlier.countP makesRecord) := by
  simp only [makesRecord, Bool.and_eq_true, Option.isNone_iff_eq_none] at makes
  rw [number, makes.2, Option.getD_none]

/-- A definition that makes a record is one more than were made before it. -/
theorem countP_lt_of_makesRecord {offers earlier later : List (Offer δ)} {offer : Offer δ}
    (split : offers = earlier ++ offer :: later) (makes : offer.makesRecord = true) :
    earlier.countP makesRecord < offers.countP makesRecord := by
  rw [split, List.countP_append, List.countP_cons_of_pos makes]
  omega

/-- Among the definitions that make records, the number tells which one it is of. -/
theorem eq_of_number_eq {base : Nat} {earlier earlier' later later' : List (Offer δ)}
    {offer offer' : Offer δ} (split : earlier ++ offer :: later = earlier' ++ offer' :: later')
    (makes : offer.makesRecord = true) (makes' : offer'.makesRecord = true)
    (same : offer.number base earlier = offer'.number base earlier') :
    earlier = earlier' ∧ offer = offer' ∧ later = later' := by
  rw [number_of_makesRecord makes, number_of_makesRecord makes', countFrom_inj] at same
  -- For the one offered first, fewer would have been made before.
  rcases List.append_eq_append_iff.1 split with ⟨between, longer, rest⟩ | ⟨between, longer, rest⟩
  · rcases between with _ | ⟨first, between⟩
    · obtain ⟨rfl, rfl⟩ := List.cons.inj rest
      exact ⟨by rw [longer, List.append_nil], rfl, rfl⟩
    · obtain ⟨rfl, _⟩ := List.cons.inj rest
      have less := countP_lt_of_makesRecord longer makes
      omega
  · rcases between with _ | ⟨first, between⟩
    · obtain ⟨rfl, rfl⟩ := List.cons.inj rest
      exact ⟨by rw [longer, List.append_nil], rfl, rfl⟩
    · obtain ⟨rfl, _⟩ := List.cons.inj rest
      have less := countP_lt_of_makesRecord longer makes'
      omega

end Offer

namespace Registry

/-- The registry after offers, in order. -/
def offerAll (registry : Registry δ) (offers : List (Offer δ)) : Registry δ :=
  offers.foldl (fun registry offer => registry.accept offer.package offer.definition) registry

/-- Making offers and then more is making all of them. -/
theorem offerAll_append (registry : Registry δ) (first second : List (Offer δ)) :
    registry.offerAll (first ++ second) = (registry.offerAll first).offerAll second :=
  List.foldl_append

/-- Making offers commutes with forgetting what was written. -/
theorem offerAll_forget (registry : Registry δ) (offers : List (Offer δ)) :
    (registry.offerAll offers).forget = registry.forget.offerAll offers := by
  induction offers generalizing registry with
  | nil => rfl
  | cons offer rest ih =>
    refine (ih (registry.accept offer.package offer.definition)).trans ?_
    rw [accept_forget]
    rfl

/-- A definition without an id is refused. -/
theorem register_of_refused (registry : Registry δ) {offer : Offer δ}
    (refused : offer.isTaken = false) :
    registry.register offer.package offer.definition =
      .error (.emptyId (Definition.kind δ) offer.package.id) := by
  have unnamed : Definition.id offer.definition = "" := by simpa [Offer.isTaken] using refused
  rw [register, if_pos unnamed]

/-- The registry with its counter moved on. -/
def advance (registry : Registry δ) (count : Nat) : Registry δ :=
  { registry with made := registry.made + count }

/-- The indexes do not depend on the counter. -/
theorem Indexed.advance {registry : Registry δ} (indexed : registry.Indexed) (count : Nat) :
    (registry.advance count).Indexed :=
  ⟨indexed.keys, indexed.numbers⟩

/-- A definition with an id is placed under its key, and the counter moves on if it makes a new
record. -/
theorem register_of_taken (registry : Registry δ) {offer : Offer δ}
    (taken : offer.isTaken = true) :
    let id := (Definition.patchTarget? offer.definition).getD registry.next
    registry.register offer.package offer.definition =
      .ok (id, (registry.advance (if offer.makesRecord then 1 else 0)).place
        { key := offer.key, id, package := offer.package, definition := offer.definition }) := by
  have named : ¬ Definition.id offer.definition = "" := by simpa [Offer.isTaken] using taken
  rw [register, if_neg named, Offer.makesRecord, taken]
  cases Definition.patchTarget? offer.definition <;> rfl

/-! ## What every offer keeps -/

/-- The registry counts from a base and holds what offers came to. -/
structure Tallied (base : Nat) (offers : List (Offer δ)) (registry : Registry δ) : Prop where
  /-- Both indexes lead to the entries. -/
  indexed : registry.Indexed
  /-- Numbers are those that the counter gave. -/
  sound : registry.Sound fun _ => True
  /-- The registry counts from the base. -/
  counts : registry.base = base
  /-- The counter gave one number for each record made. -/
  made : registry.made = offers.countP Offer.makesRecord
  /-- Keys stand in the order they were first taken. -/
  order : registry.entries.map Entry.key =
    ((offers.filter Offer.isTaken).map Offer.key).eraseDups
  /-- A key finds the last definition taken under it. -/
  latest : ∀ key entry, registry.byKey? key = some entry ↔ Offer.LastTaken base offers key entry

/-- A registry to which nothing was offered holds nothing. -/
theorem tallied_empty (base : Nat) : (empty base).Tallied base ([] : List (Offer δ)) := by
  refine ⟨indexed_empty base, sound_empty base _, rfl, rfl, rfl, ?_⟩
  intro key entry
  constructor
  · intro found
    cases found
  · rintro ⟨earlier, offer, later, split, _⟩
    simp at split

/-- The next number is the one after as many as were given for records. -/
theorem Tallied.next_eq {base : Nat} {offers : List (Offer δ)} {registry : Registry δ}
    (tallied : registry.Tallied base offers) :
    registry.next = countFrom base (offers.countP Offer.makesRecord) := by
  rw [next, tallied.counts, tallied.made]

/-- The registry after one more offer holds what the offers with it came to. -/
theorem Tallied.accept {base : Nat} {offers : List (Offer δ)} {registry : Registry δ}
    (tallied : registry.Tallied base offers) (offer : Offer δ) :
    (registry.accept offer.package offer.definition).Tallied base (offers ++ [offer]) := by
  obtain ⟨sound, sameBase⟩ := tallied.sound.accept offer.package offer.definition fun _ => trivial
  cases taken : offer.isTaken with
  | false =>
    have same : registry.accept offer.package offer.definition = registry := by
      rw [Registry.accept, register_of_refused registry taken]
    have makes : offer.makesRecord = false := by rw [Offer.makesRecord, taken, Bool.false_and]
    rw [same]
    refine ⟨tallied.indexed, tallied.sound, tallied.counts, ?_, ?_, ?_⟩
    · rw [tallied.made, List.countP_append, List.countP_singleton, makes]
      rfl
    · rw [tallied.order, List.filter_append, List.filter_singleton, taken]
      simp
    · intro key entry
      rw [tallied.latest, Offer.lastTaken_append_singleton, taken]
      simp
  | true =>
    -- What is placed is the entry that the offers before it tell.
    have after : registry.accept offer.package offer.definition =
        (registry.advance (if offer.makesRecord then 1 else 0)).place
          (offer.entry base offers) := by
      rw [Registry.accept, register_of_taken registry taken, Offer.entry, Offer.number,
        tallied.next_eq]
    have moved := tallied.indexed.advance (if offer.makesRecord then 1 else 0)
    have key : (offer.entry base offers).key = offer.key := rfl
    have indexed := tallied.indexed.accept tallied.sound offer.package offer.definition
    rw [after] at sound sameBase indexed ⊢
    refine ⟨indexed, sound, sameBase.trans tallied.counts, ?_, ?_, ?_⟩
    · rw [(counter_place _ _).2, advance, tallied.made, List.countP_append, List.countP_singleton]
    · rw [moved.keys_place, key, advance, tallied.order, List.filter_append,
        List.filter_singleton, taken, List.map_append, List.eraseDups_append]
      by_cases known : offer.key ∈ (offers.filter Offer.isTaken).map Offer.key
      · rw [if_pos (List.mem_eraseDups.2 known)]
        simp [List.removeAll, known]
      · rw [if_neg fun member => known (List.mem_eraseDups.1 member)]
        simp [List.removeAll, known, List.eraseDups_cons]
    · intro key' entry
      have before : (registry.advance (if offer.makesRecord then 1 else 0)).byKey? key' =
          registry.byKey? key' := rfl
      rw [moved.byKey?_place, key, before, Offer.lastTaken_append_singleton, taken]
      by_cases same : offer.key = key'
      · rw [if_pos same, if_pos ⟨rfl, same⟩, Option.some.injEq, eq_comm]
      · rw [if_neg same, if_neg fun both => same both.2, tallied.latest]

/-- A registry that started without entries holds what the offers came to. -/
theorem tallied_offerAll (base : Nat) (offers : List (Offer δ)) :
    ((empty base).offerAll offers).Tallied base offers := by
  induction offers using List.reverseRecOn with
  | nil => exact tallied_empty base
  | append_singleton offers offer ih =>
    rw [offerAll_append]
    exact ih.accept offer

/-- What is in a registry is the last definition taken under its key. -/
theorem Tallied.mem_iff {base : Nat} {offers : List (Offer δ)} {registry : Registry δ}
    (tallied : registry.Tallied base offers) {entry : Entry δ} :
    entry ∈ registry.entries ↔ Offer.LastTaken base offers entry.key entry := by
  rw [← tallied.latest, tallied.indexed.byKey?_eq_some_iff]
  exact ⟨fun member => ⟨member, rfl⟩, And.left⟩

/-- What makes a record in a registry with the same content is a definition that was offered. -/
theorem Tallied.exists_offer {base : Nat} {offers : List (Offer δ)} {registry other : Registry δ}
    (tallied : registry.Tallied base offers) (same : other.forget = registry.forget)
    {entry : Entry δ} (member : entry ∈ other.entries) (makes : entry.isPatch = false) :
    ∃ earlier offer later, offers = earlier ++ offer :: later ∧ offer.makesRecord = true ∧
      entry.forget = offer.entry base earlier := by
  obtain ⟨placed, placedMember, forgotten⟩ := exists_mem_of_forget_eq same member
  obtain ⟨earlier, offer, later, split, taken, _, _, rfl⟩ := tallied.mem_iff.1 placedMember
  refine ⟨earlier, offer, later, split, ?_, forgotten.symm⟩
  have makes' := (Entry.of_forget_eq forgotten).2.2.trans makes
  rw [Offer.makesRecord, taken, Bool.true_and, Option.isNone_iff_eq_none]
  simpa [Entry.isPatch, Offer.entry] using makes'

/-- In a registry with the same content, the key of an entry is made of its package and of the id of
its definition, which is not empty. -/
theorem Tallied.key_of_mem {base : Nat} {offers : List (Offer δ)} {registry other : Registry δ}
    (tallied : registry.Tallied base offers) (same : other.forget = registry.forget)
    {entry : Entry δ} (member : entry ∈ other.entries) :
    entry.key = entry.package.qualify (Definition.id entry.definition) ∧
      Definition.id entry.definition ≠ "" := by
  obtain ⟨placed, placedMember, forgotten⟩ := exists_mem_of_forget_eq same member
  obtain ⟨_, offer, _, _, taken, _, _, rfl⟩ := tallied.mem_iff.1 placedMember
  have key : offer.key = entry.key := congrArg Entry.key forgotten
  have package : offer.package = entry.package := congrArg Entry.package forgotten
  have definition : offer.definition = entry.definition := congrArg Entry.definition forgotten
  have named : Definition.id offer.definition ≠ "" := by simpa [Offer.isTaken] using taken
  rw [← key, Offer.key, package, definition]
  exact ⟨rfl, definition ▸ named⟩

/-- The number of a definition that makes a record is registered until another is taken under its
key. -/
theorem Tallied.isRegistered_iff {base : Nat} {offers earlier later : List (Offer δ)}
    {registry : Registry δ} (tallied : registry.Tallied base offers) {offer : Offer δ}
    (split : offers = earlier ++ offer :: later) (makes : offer.makesRecord = true) :
    registry.isRegistered (offer.number base earlier) = true ↔
      ∀ next ∈ later, next.isTaken = true → next.key ≠ offer.key := by
  have number (entry : Entry δ) : registry.byId? (offer.number base earlier) = some entry ↔
      entry ∈ registry.entries ∧ entry.isPatch = false ∧ entry.id = offer.number base earlier :=
    tallied.indexed.byId?_eq_some_iff
  rw [tallied.indexed.isRegistered_eq, Option.isSome_iff_exists]
  constructor
  · rintro ⟨entry, found⟩
    obtain ⟨member, makesEntry, same⟩ := (number entry).1 found
    obtain ⟨earlier', offer', later', split', taken, _, last, rfl⟩ := tallied.mem_iff.1 member
    have makes' : offer'.makesRecord = true := by
      rw [Offer.makesRecord, taken, Bool.true_and, Option.isNone_iff_eq_none]
      simpa [Entry.isPatch, Offer.entry] using makesEntry
    obtain ⟨rfl, rfl, rfl⟩ := Offer.eq_of_number_eq (split.symm.trans split') makes makes' same.symm
    exact last
  · intro last
    have both := makes
    rw [Offer.makesRecord, Bool.and_eq_true, Option.isNone_iff_eq_none] at both
    refine ⟨offer.entry base earlier, (number _).2 ⟨?_, ?_, rfl⟩⟩
    · exact tallied.mem_iff.2 ⟨earlier, offer, later, split, both.1, rfl, last, rfl⟩
    · rw [Entry.isPatch, Offer.entry, both.2]
      rfl

/-! ## Numbers out of use -/

/-- A number that was given and is not registered is not registered after an offer either. -/
theorem Tallied.isRegistered_accept {base : Nat} {offers : List (Offer δ)}
    {registry : Registry δ} (tallied : registry.Tallied base offers) (offer : Offer δ)
    {earlier : Nat} (given : earlier < offers.countP Offer.makesRecord)
    (unused : registry.isRegistered (countFrom base earlier) = false) :
    (registry.accept offer.package offer.definition).isRegistered (countFrom base earlier) =
      false := by
  cases taken : offer.isTaken with
  | false =>
    rw [Registry.accept, register_of_refused registry taken]
    exact unused
  | true =>
    have moved := tallied.indexed.advance (if offer.makesRecord then 1 else 0)
    have absent : registry.allocated.get? (countFrom base earlier) = none := by
      simpa [isRegistered, Dict.contains] using unused
    rw [Registry.accept, register_of_taken registry taken]
    simp only [isRegistered, Dict.contains]
    rw [moved.allocated_place, if_neg]
    · rw [withoutSlot, advance, absent]
      rfl
    · rintro ⟨makes, same⟩
      have target : Definition.patchTarget? offer.definition = none := by
        simpa [Entry.isPatch] using makes
      simp only [target, Option.getD_none, tallied.next_eq, countFrom_inj] at same
      omega

/-- A number that was given and is not registered is never registered again. -/
theorem isRegistered_offerAll (base : Nat) (offers more : List (Offer δ)) {earlier : Nat}
    (given : earlier < offers.countP Offer.makesRecord)
    (unused : ((empty base).offerAll offers).isRegistered (countFrom base earlier) = false) :
    ((empty base).offerAll (offers ++ more)).isRegistered (countFrom base earlier) = false := by
  induction more using List.reverseRecOn with
  | nil =>
    rw [List.append_nil]
    exact unused
  | append_singleton more offer ih =>
    have still : earlier < (offers ++ more).countP Offer.makesRecord := by
      rw [List.countP_append]
      omega
    rw [← List.append_assoc, offerAll_append]
    exact (tallied_offerAll base (offers ++ more)).isRegistered_accept offer still ih

/-- A registry that holds what offers came to has its counter in range when the base and the
records made do not go past the largest number. -/
theorem Tallied.inRange_iff {base : Nat} {offers : List (Offer δ)} {registry : Registry δ}
    (tallied : registry.Tallied base offers) :
    registry.InRange ↔ base + offers.countP Offer.makesRecord ≤ Whole.idLimit := by
  rw [InRange, tallied.counts, tallied.made]

/-- While the counter is in range, what is registered is a number from the base on. -/
theorem Tallied.base_le_of_isRegistered {base : Nat} {offers : List (Offer δ)}
    {registry : Registry δ} (tallied : registry.Tallied base offers) (inRange : registry.InRange)
    {id : Nat} (used : registry.isRegistered id = true) : base ≤ id := by
  rw [tallied.indexed.isRegistered_eq, Option.isSome_iff_exists] at used
  obtain ⟨entry, found⟩ := used
  obtain ⟨member, makes, rfl⟩ := tallied.indexed.byId?_eq_some_iff.1 found
  rw [← tallied.counts]
  exact (tallied.sound.bounds inRange member makes).1

/-! ## The account -/

/-- What a registry says about keys and numbers, told from the offers made to it. -/
structure Account (base : Nat) (offers : List (Offer δ)) (registry : Registry δ) : Prop where
  /-- No key stands twice. -/
  distinct : (registry.entries.map Entry.key).Nodup
  /-- Keys stand in the order they were first taken. -/
  order : registry.entries.map Entry.key =
    ((offers.filter Offer.isTaken).map Offer.key).eraseDups
  /-- The entries are those that their keys find. -/
  listed : ∀ entry, entry ∈ registry.entries ↔ registry.byKey? entry.key = some entry
  /-- A key finds the last definition taken under it. -/
  latest : ∀ key entry, registry.byKey? key = some entry ↔ Offer.LastTaken base offers key entry
  /-- A key finds nothing when nothing was taken under it. -/
  absent : ∀ key, registry.byKey? key = none ↔
    ∀ offer ∈ offers, offer.isTaken = true → offer.key ≠ key
  /-- A number finds the entry that now makes the record with this number. -/
  numbered : ∀ id entry, registry.byId? id = some entry ↔
    entry ∈ registry.entries ∧ entry.isPatch = false ∧ entry.id = id
  /-- A number is registered when it finds an entry. -/
  registered : ∀ id, registry.isRegistered id = (registry.byId? id).isSome

/-- A registry that holds what offers came to gives account of them. -/
theorem Tallied.account {base : Nat} {offers : List (Offer δ)} {registry : Registry δ}
    (tallied : registry.Tallied base offers) : registry.Account base offers := by
  have indexed := tallied.indexed
  refine ⟨indexed.nodup_keys, tallied.order, ?_, tallied.latest, ?_,
    fun id entry => indexed.byId?_eq_some_iff, indexed.isRegistered_eq⟩
  · intro entry
    rw [indexed.byKey?_eq_some_iff]
    exact ⟨fun member => ⟨member, rfl⟩, And.left⟩
  · intro key
    have listed : registry.byKey? key = none ↔ key ∉ registry.entries.map Entry.key := by
      rw [Option.eq_none_iff_forall_ne_some]
      simp only [ne_eq, indexed.byKey?_eq_some_iff, List.mem_map]
      exact not_exists.symm
    rw [listed, tallied.order, List.mem_eraseDups]
    simp

end Registry

/-- Whatever definitions are offered to a registry, it gives account of them: what its keys and
numbers find, and in which order, is told from the offers. The next definition is refused if it
has no id, and then nothing changes; otherwise it gets the target of a patch or the number that
counts the records made before. No number is given out for two records, and one that was given out
and is no longer registered never is again. As long as the counter is in range, a number that
counts is the base and the records made before, and one below the counter that is not registered
never is. -/
theorem registry_account (base : Nat) (offers : List (Offer δ)) :
    let registry := (Registry.empty base).offerAll offers
    registry.Account base offers ∧
    (∀ offer : Offer δ, offer.isTaken = true →
      registry.register offer.package offer.definition =
        .ok (offer.number base offers, (Registry.empty base).offerAll (offers ++ [offer]))) ∧
    (∀ offer : Offer δ, offer.isTaken = false →
      registry.register offer.package offer.definition =
        .error (.emptyId (Definition.kind δ) offer.package.id) ∧
      (Registry.empty base).offerAll (offers ++ [offer]) = registry) ∧
    (∀ earlier (first : Offer δ) between (second : Offer δ) later,
      offers = earlier ++ first :: between ++ second :: later →
      first.makesRecord = true → second.makesRecord = true →
      first.number base earlier ≠ second.number base (earlier ++ first :: between)) ∧
    (∀ earlier (offer : Offer δ) later more, offers = earlier ++ offer :: later →
      offer.makesRecord = true → registry.isRegistered (offer.number base earlier) = false →
      ((Registry.empty base).offerAll (offers ++ more)).isRegistered
        (offer.number base earlier) = false) ∧
    ∀ more, base + (offers ++ more).countP Offer.makesRecord ≤ Whole.idLimit →
      (∀ earlier (offer : Offer δ) later, offers ++ more = earlier ++ offer :: later →
        offer.makesRecord = true →
        offer.number base earlier = base + earlier.countP Offer.makesRecord) ∧
      ∀ id < base + offers.countP Offer.makesRecord, registry.isRegistered id = false →
        ((Registry.empty base).offerAll (offers ++ more)).isRegistered id = false := by
  intro registry
  have tallied : registry.Tallied base offers := Registry.tallied_offerAll base offers
  refine ⟨tallied.account, ?_, ?_, ?_, ?_, fun more inRange => ⟨?_, ?_⟩⟩
  · intro offer taken
    have after : (Registry.empty base).offerAll (offers ++ [offer]) =
        registry.accept offer.package offer.definition := by
      rw [Registry.offerAll_append]
      rfl
    rw [after, Registry.accept, Registry.register_of_taken registry taken, Offer.number,
      tallied.next_eq]
  · intro offer refused
    refine ⟨registry.register_of_refused refused, ?_⟩
    rw [Registry.offerAll_append]
    change registry.accept offer.package offer.definition = registry
    rw [Registry.accept, registry.register_of_refused refused]
  · intro earlier first between second later _ firstMakes secondMakes same
    rw [Offer.number_of_makesRecord firstMakes, Offer.number_of_makesRecord secondMakes,
      countFrom_inj] at same
    exact absurd same (Nat.ne_of_lt (Offer.countP_lt_of_makesRecord rfl firstMakes))
  · intro earlier offer later more split makes unused
    rw [Offer.number_of_makesRecord makes] at unused ⊢
    have given := Offer.countP_lt_of_makesRecord split makes
    exact Registry.isRegistered_offerAll base offers more given unused
  · intro earlier offer later split makes
    have before := Offer.countP_lt_of_makesRecord split makes
    rw [Offer.number_of_makesRecord makes, countFrom_of_lt (by omega)]
  · intro id below unused
    have final := Registry.tallied_offerAll base (offers ++ more)
    by_cases given : base ≤ id
    · have number : countFrom base (id - base) = id := by
        rw [List.countP_append] at inRange
        rw [countFrom_of_lt (by omega)]
        omega
      rw [← number] at unused ⊢
      exact Registry.isRegistered_offerAll base offers more (by omega) unused
    · exact Bool.eq_false_iff.2 fun used =>
        given (final.base_le_of_isRegistered (final.inRange_iff.2 inRange) used)

/-- An item that one package offers. -/
def stallOffer (item : ItemDefinition) : Offer ItemDefinition :=
  { package := .inMemory "stall", definition := item }

/-- Offers of items under which a key turns from a new item into a patch of the number it had. -/
def stallOffers : List (Offer ItemDefinition) :=
  [stallOffer { id := "jam" }, stallOffer { id := "" }, stallOffer { id := "stew" },
    stallOffer { id := "jam", isModify := true, targetItemId := 100 }]

/-- The registry gives account of these offers: the next new item gets a number of its own, and
the number that the key lost to the patch stays out of use. -/
theorem stall_account :
    let registry := (Registry.empty 100).offerAll stallOffers
    let bread := stallOffer { id := "bread" }
    let nameless := stallOffer { id := "" }
    registry.Account 100 stallOffers ∧
    (bread.isTaken = true ∧ registry.register bread.package bread.definition =
      .ok (102, (Registry.empty 100).offerAll (stallOffers ++ [bread]))) ∧
    (nameless.isTaken = false ∧ registry.register nameless.package nameless.definition =
        .error (.emptyId "item" "stall") ∧
      (Registry.empty 100).offerAll (stallOffers ++ [nameless]) = registry) ∧
    (stallOffer { id := "jam" }).number 100 [] ≠
      (stallOffer { id := "stew" }).number 100
        [stallOffer { id := "jam" }, stallOffer { id := "" }] ∧
    100 + (stallOffers ++ [bread]).countP Offer.makesRecord ≤ Whole.idLimit ∧
    bread.number 100 stallOffers = 100 + stallOffers.countP Offer.makesRecord ∧
    100 < 100 + stallOffers.countP Offer.makesRecord ∧ registry.isRegistered 100 = false ∧
    ((Registry.empty 100).offerAll (stallOffers ++ [bread])).isRegistered 100 = false := by
  intro registry bread nameless
  obtain ⟨account, taken, refused, apart, _, counts⟩ := registry_account 100 stallOffers
  have inRange : 100 + (stallOffers ++ [bread]).countP Offer.makesRecord ≤ Whole.idLimit := by
    decide
  obtain ⟨number, unused⟩ := counts [bread] inRange
  refine ⟨account, ⟨by decide, taken bread (by decide)⟩,
    ⟨by decide, refused nameless (by decide)⟩, ?_, inRange, number stallOffers bread [] rfl
      (by decide), by decide, by decide, unused 100 (by decide) (by decide)⟩
  exact apart [] (stallOffer { id := "jam" }) [stallOffer { id := "" }]
    (stallOffer { id := "stew" })
    [stallOffer { id := "jam", isModify := true, targetItemId := 100 }] rfl (by decide) (by decide)

end Modpack
