import Modpack.Proofs.Contents

/-!
# Loading a package again

A package counts as loaded already when one with its id was registered, whatever the case of the
letters, and its definitions are then meant to win over the earlier ones. Keys tell the cases apart.
So they do win over those of a package whose id is written alike: the key of a definition that both
declare finds the later one, and no key and no number finds the earlier one any more. Over those of
a package whose id is written in another case they never win: what its keys find stays as it was.
-/
namespace Modpack

/-! ## Ids that differ in case at most -/

/-- Keys of two packages whose ids differ in case at most are equal only if the ids and the
definitions are. -/
theorem PackageInfo.qualify_eq_iff {package package' : PackageInfo}
    (alike : Text.sameAscii package.id package'.id = true) {definition definition' : String} :
    package.qualify definition = package'.qualify definition' ↔
      package.id = package'.id ∧ definition = definition' := by
  have length : package.id.toList.length = package'.id.toList.length := by
    have lowered := congrArg List.length (beq_iff_eq.1 alike)
    rwa [List.length_map, List.length_map] at lowered
  have text (id name : String) : (id ++ ":" ++ name).toList = id.toList ++ ':' :: name.toList := by
    simp
  rw [qualify, qualify, ← String.toList_inj, text, text,
    List.append_eq_append_iff_of_size_eq_left length, String.toList_inj, List.cons_inj_right,
    String.toList_inj]

/-- An id differs from itself in case at most. -/
theorem Text.sameAscii_self (id : String) : Text.sameAscii id id = true :=
  beq_self_eq_true _

/-! ## Registering one more package -/

namespace Registry

variable {δ : Type} [Definition δ]

/-- Offers under other keys do not change what a key finds. -/
theorem Indexed.byKey?_offerAll_of_ne {registry : Registry δ} (indexed : registry.Indexed)
    {known : δ → Prop} (sound : registry.Sound known) {offers : List (Offer δ)}
    (isKnown : ∀ offer ∈ offers, known offer.definition) {key : String}
    (apart : ∀ offer ∈ offers, offer.key ≠ key) :
    (registry.offerAll offers).byKey? key = registry.byKey? key := by
  induction offers generalizing registry with
  | nil => rfl
  | cons offer rest ih =>
    have next := (sound.accept offer.package offer.definition fun _ =>
      isKnown offer List.mem_cons_self).1
    have rest' := ih (indexed.accept sound offer.package offer.definition) next
      (fun other member => isKnown other (List.mem_cons_of_mem offer member))
      (fun other member => apart other (List.mem_cons_of_mem offer member))
    exact rest'.trans (indexed.byKey?_accept_of_ne (apart offer List.mem_cons_self))

section Latest

variable {base : Nat} {earlier own : List (Offer δ)} {registry : Registry δ}
  (same : registry.forget = ((empty base).offerAll (earlier ++ own)).forget)
  {newest : Offer δ} (offered : newest ∈ own) (taken : newest.isTaken = true)
include same offered taken

/-- When a definition under a key is among the ones offered later, the key finds the last of these
that is under it. -/
theorem exists_latest : ∃ entry before offer after, registry.byKey? newest.key = some entry ∧
    own = before ++ offer :: after ∧ entry.package = offer.package ∧
    entry.definition = offer.definition ∧ offer.key = newest.key ∧
    ∀ next ∈ after, next.isTaken = true → next.key ≠ newest.key := by
  have tallied := tallied_offerAll base (earlier ++ own)
  have present : ((empty base).offerAll (earlier ++ own)).byKey? newest.key ≠ none := by
    intro none
    exact (tallied.account.absent newest.key).1 none newest (List.mem_append_right _ offered)
      taken rfl
  obtain ⟨placed, found⟩ := Option.ne_none_iff_exists'.1 present
  obtain ⟨front, offer, after, split, _, key, last, rfl⟩ := (tallied.latest _ _).1 found
  have forgotten := (registry.byKey?_forget newest.key).symm.trans
    ((congrArg (fun registry : Registry δ => registry.byKey? newest.key) same).trans
      (byKey?_forget _ _))
  rw [found] at forgotten
  obtain ⟨entry, found', equal⟩ := Option.map_eq_some_iff.1 forgotten
  -- The last of all the definitions under the key is offered later, as one of these is.
  have later : ∃ before, own = before ++ offer :: after := by
    rcases List.append_eq_append_iff.1 split with ⟨before, _, rest⟩ | ⟨before, _, rest⟩
    · exact ⟨before, rest⟩
    · rcases before with _ | ⟨first, before⟩
      · exact ⟨[], rest.symm⟩
      · obtain ⟨_, rfl⟩ := List.cons.inj rest
        exact absurd rfl (last newest (List.mem_append_right before offered) taken)
  obtain ⟨before, own⟩ := later
  have package : entry.package = offer.package := congrArg Entry.package equal
  have definition : entry.definition = offer.definition := congrArg Entry.definition equal
  exact ⟨entry, before, offer, after, found', own, package, definition, key, last⟩

/-- A number that was given out under the key before finds nothing any more. -/
theorem byId?_of_superseded {front back : List (Offer δ)} {offer : Offer δ}
    (split : earlier = front ++ offer :: back) (key : offer.key = newest.key)
    (makes : offer.makesRecord = true) : registry.byId? (offer.number base front) = none := by
  have tallied := tallied_offerAll base (earlier ++ own)
  have split' : earlier ++ own = front ++ offer :: (back ++ own) := by
    rw [split, List.append_assoc, List.cons_append]
  have unregistered : registry.isRegistered (offer.number base front) = false := by
    rw [← isRegistered_forget, same, isRegistered_forget, Bool.eq_false_iff]
    intro registered
    exact (tallied.isRegistered_iff split' makes).1 registered newest
      (List.mem_append_right back offered) taken key.symm
  rw [(tallied.indexed.of_forget_eq same).isRegistered_eq] at unregistered
  simpa using unregistered

end Latest

end Registry

namespace Content

variable {δ : Type} [Definition δ] (content : Content δ)

/-- The definition is the last one that a package declares under an id. -/
def LastDeclared (package : Package) (id : String) (definition : δ) : Prop :=
  ∃ front back, content.declared package = front ++ definition :: back ∧
    Definition.id definition = id ∧ ∀ next ∈ back, Definition.id next ≠ id

/-- A key stands for a definition of a package, and nothing registered under the key before can be
reached. -/
structure Overrides (base : Nat) (earlier : List (Offer δ)) (registry : Registry δ)
    (package : Package) (key id : String) : Prop where
  /-- The key finds the last definition that the package declares under the id. -/
  finds : ∃ entry, registry.byKey? key = some entry ∧ entry.package = package.info ∧
    content.LastDeclared package id entry.definition
  /-- Whatever has this key and is found by some key is found by this one. -/
  keys : ∀ other entry, registry.byKey? other = some entry → entry.key = key →
    registry.byKey? key = some entry
  /-- Whatever has this key and is found by some number is found by this key. -/
  numbers : ∀ id entry, registry.byId? id = some entry → entry.key = key →
    registry.byKey? key = some entry
  /-- A number given out under this key before finds nothing. -/
  retired : ∀ front (offer : Offer δ) back, earlier = front ++ offer :: back → offer.key = key →
    offer.makesRecord = true → registry.byId? (offer.number base front) = none

variable {ids : IdRanges} {host : Host} {events : List SessionEvent} {package : Package}

/-- When a package is registered after a session, its definitions are offered after those of the
session. -/
theorem session_registerPackage (ids : IdRanges) (host : Host) (events : List SessionEvent)
    (package : Package) :
    let now := ((World.start ids host).session events).engine
    (content.registry (now.registerPackage package).engine).forget =
      ((Registry.empty (content.base ids)).offerAll
        (content.offered events ++ content.offers package)).forget := by
  intro now
  rw [content.registry_registerPackage, Registry.offerAll_forget, content.session_registry,
    ← Registry.offerAll_forget, Registry.offerAll_append]

/-- The definitions of a package that is registered after a session override what was registered
under their keys. -/
theorem overrides_of_declared {definition : δ} (declared : definition ∈ content.declared package)
    (named : Definition.id definition ≠ "") :
    let now := ((World.start ids host).session events).engine
    content.Overrides (content.base ids) (content.offered events)
      (content.registry (now.registerPackage package).engine) package
      (package.info.qualify (Definition.id definition)) (Definition.id definition) := by
  intro now
  have same : (content.registry (now.registerPackage package).engine).forget = _ :=
    content.session_registerPackage ids host events package
  have indexed := (Registry.tallied_offerAll (content.base ids) _).indexed.of_forget_eq same
  let newest : Offer δ := ⟨package.info, definition⟩
  have offered : newest ∈ content.offers package := List.mem_map_of_mem declared
  have taken : newest.isTaken = true := bne_iff_ne.2 named
  refine ⟨?_, ?_, ?_, ?_⟩
  · obtain ⟨entry, before, offer, after, found, own, samePackage, sameDefinition, key, last⟩ :=
      Registry.exists_latest same offered taken
    obtain ⟨front, rest, split, _, restOffers⟩ := List.map_eq_append_iff.1 own
    obtain ⟨definition', back, rfl, rfl, rfl⟩ := List.map_eq_cons_iff.1 restOffers
    have keys {first second : String} :
        package.info.qualify first = package.info.qualify second ↔ first = second := by
      rw [PackageInfo.qualify_eq_iff (Text.sameAscii_self _)]
      simp
    refine ⟨entry, found, samePackage, front, back, ?_, ?_, fun next member again => ?_⟩
    · rw [split, sameDefinition]
    · rw [sameDefinition]
      exact keys.1 key
    · have key' : (⟨package.info, next⟩ : Offer δ).key = newest.key := keys.2 again
      have taken' : (⟨package.info, next⟩ : Offer δ).isTaken = true :=
        bne_iff_ne.2 (again ▸ named)
      exact last _ (List.mem_map_of_mem member) taken' key'
  · intro other entry found key
    exact indexed.byKey?_eq_some_iff.2 ⟨(indexed.byKey?_eq_some_iff.1 found).1, key⟩
  · intro id entry found key
    exact indexed.byKey?_eq_some_iff.2 ⟨(indexed.byId?_eq_some_iff.1 found).1, key⟩
  · intro front offer back split key makes
    exact Registry.byId?_of_superseded same offered taken split key makes

/-- After a session and one more package the key of an entry is made of its own package and
definition. -/
theorem key_of_found {key : String} {entry : Entry δ}
    (found : (content.registry (((World.start ids host).session events).engine.registerPackage
      package).engine).byKey? key = some entry) :
    key = entry.package.qualify (Definition.id entry.definition) := by
  have same := content.session_registerPackage ids host events package
  have tallied := Registry.tallied_offerAll (content.base ids)
    (content.offered events ++ content.offers package)
  obtain ⟨member, rfl⟩ := (tallied.indexed.of_forget_eq same).byKey?_eq_some_iff.1 found
  exact (tallied.key_of_mem same member).1

/-- What becomes of the definitions of a kind when a package is registered whose id differs from
that of an earlier one in case at most. -/
structure LoadedAgain (ids : IdRanges) (host : Host) (events : List SessionEvent)
    (older newer : Package) : Prop where
  /-- The definitions under ids that both declare are overridden exactly if the packages have the
  same id. -/
  overrides : ∀ id, id ≠ "" →
    (∃ definition ∈ content.declared older, Definition.id definition = id) →
    (∃ definition ∈ content.declared newer, Definition.id definition = id) →
    let now := ((World.start ids host).session events).engine
    (content.Overrides (content.base ids) (content.offered events)
        (content.registry (now.registerPackage newer).engine) newer (older.info.qualify id) id ↔
      older.info.id = newer.info.id)
  /-- If they have not, the keys of the earlier package find what they found. -/
  otherwise : older.info.id ≠ newer.info.id → ∀ id,
    let now := ((World.start ids host).session events).engine
    (content.registry (now.registerPackage newer).engine).byKey? (older.info.qualify id) =
      (content.registry now).byKey? (older.info.qualify id)

/-- Registering a package whose id differs from that of an earlier one in case at most. -/
theorem loadedAgain (ids : IdRanges) (host : Host) (events : List SessionEvent)
    {older newer : Package} (alike : Text.sameAscii older.info.id newer.info.id = true) :
    content.LoadedAgain ids host events older newer := by
  constructor
  · intro id named _ declared now
    constructor
    · intro overrides
      obtain ⟨entry, found, package, _, _, _, entryId, _⟩ := overrides.finds
      have key := content.key_of_found found
      rw [package, entryId, PackageInfo.qualify_eq_iff alike] at key
      exact key.1
    · intro sameId
      obtain ⟨definition, member, rfl⟩ := declared
      have key : older.info.qualify (Definition.id definition) =
          newer.info.qualify (Definition.id definition) :=
        (PackageInfo.qualify_eq_iff alike).2 ⟨sameId, rfl⟩
      rw [key]
      exact content.overrides_of_declared member named
  · intro apart id now
    have same := content.session_registry ids host events
    have tallied := Registry.tallied_offerAll (content.base ids) (content.offered events)
    rw [content.registry_registerPackage]
    refine (tallied.indexed.of_forget_eq same).byKey?_offerAll_of_ne
      (tallied.sound.of_forget_eq same) (fun _ _ => trivial) fun offer member key => ?_
    obtain ⟨definition, _, rfl⟩ := List.mem_map.1 member
    exact apart ((PackageInfo.qualify_eq_iff alike).1 key.symm).1

end Content

/-- Whatever happened before, a package counts as loaded when one was registered whose id differs
from its own in case at most. When it is registered then, its items, recipes and quests override
those that the earlier package declares too exactly if both packages have the very same id;
otherwise the keys of the earlier package find what they found. -/
theorem loaded_again_iff (ids : IdRanges) (host : Host) (events : List SessionEvent)
    (older newer : Package) (loaded : older ∈ events.flatMap SessionEvent.registered)
    (alike : Text.sameAscii older.info.id newer.info.id = true) :
    ((World.start ids host).session events).engine.isPackageLoaded newer.info.id = true ∧
    Content.items.LoadedAgain ids host events older newer ∧
    Content.recipes.LoadedAgain ids host events older newer ∧
    Content.quests.LoadedAgain ids host events older newer := by
  refine ⟨?_, Content.items.loadedAgain ids host events alike,
    Content.recipes.loadedAgain ids host events alike,
    Content.quests.loadedAgain ids host events alike⟩
  rw [Engine.isPackageLoaded, World.session_packages, List.any_eq_true]
  exact ⟨older.info, List.mem_map_of_mem loaded, alike⟩

/-- A package with a stew, under an id and at a price. -/
def stewPackage (id : String) (price : Int) : Package where
  info := .inMemory id
  items := [{ id := "stew", price := price }]

/-- The session in which such a package is registered. -/
def stewSession : List SessionEvent :=
  [.event (.call (.register (stewPackage "Demo" 3)))]

/-- Registered again under the very same id, the stew is the later one, and the number of the
earlier one is out of use. -/
theorem stew_loaded_again :
    let older := stewPackage "Demo" 3
    let newer := stewPackage "Demo" 5
    let now := ((World.start {} .seeded).session stewSession).engine
    let after := (now.registerPackage newer).engine
    older ∈ stewSession.flatMap SessionEvent.registered ∧
    Text.sameAscii older.info.id newer.info.id = true ∧
    now.isPackageLoaded "Demo" = true ∧
    Content.items.Overrides 60000 (Content.items.offered stewSession) after.items newer
      "Demo:stew" "stew" ∧
    (after.items.byKey? "Demo:stew").map (fun entry => entry.definition.price) = some 5 ∧
    after.items.isRegistered 60000 = false := by
  intro older newer now after
  have loaded : older ∈ stewSession.flatMap SessionEvent.registered := List.mem_singleton_self _
  have alike : Text.sameAscii older.info.id newer.info.id = true := by decide
  obtain ⟨counts, items, _, _⟩ := loaded_again_iff {} .seeded stewSession older newer loaded alike
  have both := items.overrides "stew" (by decide) ⟨_, List.mem_singleton_self _, rfl⟩
    ⟨_, List.mem_singleton_self _, rfl⟩
  exact ⟨loaded, alike, counts, both.2 rfl, by decide, by decide⟩

/-- Registered again under an id in another case, the package counts as loaded, but the stew that
the first key finds is the earlier one, under the number it had. -/
theorem stew_not_overridden :
    let older := stewPackage "Demo" 3
    let newer := stewPackage "demo" 5
    let now := ((World.start {} .seeded).session stewSession).engine
    let after := (now.registerPackage newer).engine
    older ∈ stewSession.flatMap SessionEvent.registered ∧
    Text.sameAscii older.info.id newer.info.id = true ∧
    now.isPackageLoaded newer.info.id = true ∧
    (after.items.byKey? "Demo:stew").map (fun entry => (entry.id, entry.definition.price)) =
      some (60000, 3) ∧
    after.items.isRegistered 60000 = true ∧
    ¬ Content.items.Overrides 60000 (Content.items.offered stewSession) after.items newer
      "Demo:stew" "stew" := by
  intro older newer now after
  have loaded : older ∈ stewSession.flatMap SessionEvent.registered := List.mem_singleton_self _
  have found : (after.items.byId? 60000).isSome = true := by decide
  refine ⟨loaded, by decide, by decide, by decide, by decide, fun overrides => ?_⟩
  have retired := overrides.retired [] ⟨older.info, { id := "stew", price := 3 }⟩ [] rfl
    (by decide) (by decide)
  rw [show after.items.byId? 60000 = none from retired] at found
  cases found

end Modpack
