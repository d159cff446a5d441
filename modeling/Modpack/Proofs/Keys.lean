import Modpack.Proofs.Numbering

/-!
# What a key says about its package

A key is the id of a package, a colon and the id of a definition, and either id may have colons of
its own. So a key can be read at each of its colons, and packages whose ids differ share a key when
they read it at different ones. Such a package takes the key from the other as if it registered the
other's definition again. A key therefore tells the last definition of its package under its id
exactly when no foreign definition was taken under it since; where ids of packages have no colons,
this is always so.
-/
namespace Modpack

/-! ## Reading a key -/

/-- The key that a package and a definition make is made by another package and definition too,
which read it at a later colon. -/
def ReadLater (package definition otherPackage otherDefinition : String) : Prop :=
  ∃ part, otherPackage = package ++ ":" ++ part ∧ definition = part ++ ":" ++ otherDefinition

/-- Two lists with a separator in them are equal when they are equal on both sides of it, or when
one of them has the separator of the other in one of its sides. -/
theorem append_separator_eq_iff {α : Type} {separator : α} {left right left' right' : List α} :
    left ++ separator :: right = left' ++ separator :: right' ↔
      (left = left' ∧ right = right') ∨
      (∃ part, left' = left ++ separator :: part ∧ right = part ++ separator :: right') ∨
      ∃ part, left = left' ++ separator :: part ∧ right' = part ++ separator :: right := by
  rw [List.append_eq_append_iff]
  constructor
  · rintro (⟨between, longer, rest⟩ | ⟨between, longer, rest⟩)
    all_goals
      rcases between with _ | ⟨first, part⟩
      · simp_all
      · simp_all
  · rintro (⟨rfl, rfl⟩ | ⟨part, rfl, rfl⟩ | ⟨part, rfl, rfl⟩)
    · exact .inl ⟨[], by simp⟩
    · exact .inl ⟨separator :: part, by simp⟩
    · exact .inr ⟨separator :: part, by simp⟩

/-- Two keys are equal when they are read alike, or when one is the other read at a later colon. -/
theorem key_eq_iff {package definition package' definition' : String} :
    package ++ ":" ++ definition = package' ++ ":" ++ definition' ↔
      (package = package' ∧ definition = definition') ∨
      ReadLater package definition package' definition' ∨
      ReadLater package' definition' package definition := by
  have text (left right : String) : (left ++ ":" ++ right).toList =
      left.toList ++ ':' :: right.toList := by simp
  have part (property : List Char → Prop) :
      (∃ letters, property letters) ↔ ∃ text : String, property text.toList :=
    ⟨fun ⟨letters, holds⟩ => ⟨String.ofList letters, by simpa using holds⟩,
      fun ⟨text, holds⟩ => ⟨text.toList, holds⟩⟩
  simp only [ReadLater, ← String.toList_inj, text, append_separator_eq_iff, part]

/-- A package that reads a key later has another id. -/
theorem ReadLater.ne {package definition package' definition' : String}
    (later : ReadLater package definition package' definition') : package ≠ package' := by
  obtain ⟨part, longer, _⟩ := later
  intro same
  have length := congrArg String.length (same.trans longer)
  simp only [String.length_append] at length
  have colon : (":" : String).length = 1 := rfl
  omega

/-- A package that reads a key later has a colon in its id. -/
theorem ReadLater.colon_mem {package definition package' definition' : String}
    (later : ReadLater package definition package' definition') : ':' ∈ package'.toList := by
  obtain ⟨part, longer, _⟩ := later
  simp [longer]

/-! ## Whose definition stands under a key -/

variable {δ : Type} [Definition δ]

namespace Offer

/-- The definition is taken from a package with this id, under this id of its own. -/
def IsOf (offer : Offer δ) (package definition : String) : Prop :=
  offer.isTaken = true ∧ offer.package.id = package ∧
    Definition.id offer.definition = definition

/-- The definition is taken under a key that this package and this definition make as well, but is
read at another colon. -/
def Intrudes (offer : Offer δ) (package definition : String) : Prop :=
  offer.isTaken = true ∧
    (ReadLater offer.package.id (Definition.id offer.definition) package definition ∨
      ReadLater package definition offer.package.id (Definition.id offer.definition))

/-- What is taken under a key is of its package and definition or intrudes. -/
theorem taken_key_iff (offer : Offer δ) (package : PackageInfo) (definition : String) :
    (offer.isTaken = true ∧ offer.key = package.qualify definition) ↔
      offer.IsOf package.id definition ∨ offer.Intrudes package.id definition := by
  rw [key, PackageInfo.qualify, PackageInfo.qualify, key_eq_iff, IsOf, Intrudes, and_or_left]

/-- What intrudes is of a package with another id. -/
theorem Intrudes.package_ne {offer : Offer δ} {package definition : String}
    (intrudes : offer.Intrudes package definition) : offer.package.id ≠ package := by
  rcases intrudes.2 with later | earlier
  · exact later.ne
  · exact earlier.ne.symm

/-- What intrudes is of a package with a colon in its id, or has one in the id it intrudes on. -/
theorem Intrudes.colon_mem {offer : Offer δ} {package definition : String}
    (intrudes : offer.Intrudes package definition) :
    ':' ∈ offer.package.id.toList ∨ ':' ∈ package.toList := by
  rcases intrudes.2 with later | earlier
  · exact .inr later.colon_mem
  · exact .inl earlier.colon_mem

/-- The entry is that of the last definition taken from a package with this id under this id of its
own. -/
def LastOf (base : Nat) (offers : List (Offer δ)) (package definition : String)
    (entry : Entry δ) : Prop :=
  ∃ earlier offer later, offers = earlier ++ offer :: later ∧ offer.IsOf package definition ∧
    (∀ next ∈ later, ¬ next.IsOf package definition) ∧ entry = offer.entry base earlier

/-- Whatever intruded on a package and definition, the package's own definition was taken again
since. -/
def Reclaimed (offers : List (Offer δ)) (package definition : String) : Prop :=
  ∀ earlier offer later, offers = earlier ++ offer :: later →
    offer.Intrudes package definition → ∃ next ∈ later, next.IsOf package definition

/-- After the last of the package's own definitions nothing is taken under the key, once all of it
was reclaimed. -/
theorem Reclaimed.last {offers earlier later : List (Offer δ)} {offer : Offer δ}
    {package : PackageInfo} {definition : String}
    (reclaimed : Reclaimed offers package.id definition)
    (split : offers = earlier ++ offer :: later)
    (last : ∀ next ∈ later, ¬ next.IsOf package.id definition) :
    ∀ next ∈ later, next.isTaken = true → next.key ≠ package.qualify definition := by
  intro next member taken same
  rcases (next.taken_key_iff package definition).1 ⟨taken, same⟩ with own | intrudes
  · exact last next member own
  · obtain ⟨before, after, rfl⟩ := List.append_of_mem member
    have split' : offers = (earlier ++ offer :: before) ++ next :: after := by
      rw [split, List.append_assoc, List.cons_append]
    obtain ⟨again, inAfter, own⟩ := reclaimed _ next after split' intrudes
    exact last again (by simp [inAfter]) own

end Offer

/-- What was offered to a registry is found and kept as if a key belonged to one package and one
definition only. -/
structure Faithful (base : Nat) (offers : List (Offer δ)) (package : PackageInfo)
    (definition : String) : Prop where
  /-- The key finds the last definition of the package under this id, and nothing if there is
  none. -/
  finds : ∀ entry, ((Registry.empty base).offerAll offers).byKey? (package.qualify definition) =
    some entry ↔ Offer.LastOf base offers package.id definition entry
  /-- The number of such a definition is registered until the package has another under this id. -/
  keeps : ∀ earlier (offer : Offer δ) later, offers = earlier ++ offer :: later →
    offer.IsOf package.id definition → offer.makesRecord = true →
    (((Registry.empty base).offerAll offers).isRegistered (offer.number base earlier) = true ↔
      ∀ next ∈ later, ¬ next.IsOf package.id definition)

/-- A key whose package reclaimed it from every intruder belongs to this package. -/
theorem Offer.Reclaimed.faithful {base : Nat} {offers : List (Offer δ)} {package : PackageInfo}
    {definition : String} (reclaimed : Offer.Reclaimed offers package.id definition) :
    Faithful base offers package definition := by
  have tallied := Registry.tallied_offerAll base offers
  constructor
  · intro entry
    rw [tallied.latest]
    constructor
    · rintro ⟨earlier, offer, later, split, taken, same, last, equal⟩
      have none : ∀ next ∈ later, ¬ next.IsOf package.id definition := by
        intro next member own
        have keyed := (next.taken_key_iff package definition).2 (.inl own)
        exact last next member keyed.1 keyed.2
      rcases (offer.taken_key_iff package definition).1 ⟨taken, same⟩ with own | intrudes
      · exact ⟨earlier, offer, later, split, own, none, equal⟩
      · obtain ⟨next, member, own⟩ := reclaimed earlier offer later split intrudes
        exact absurd own (none next member)
    · rintro ⟨earlier, offer, later, split, own, last, equal⟩
      have keyed := (offer.taken_key_iff package definition).2 (.inl own)
      exact ⟨earlier, offer, later, split, keyed.1, keyed.2, reclaimed.last split last, equal⟩
  · intro earlier offer later split own makes
    have keyed := (offer.taken_key_iff package definition).2 (.inl own)
    rw [tallied.isRegistered_iff split makes, keyed.2]
    constructor
    · intro last next member again
      have keyed' := (next.taken_key_iff package definition).2 (.inl again)
      exact last next member keyed'.1 keyed'.2
    · exact reclaimed.last split

/-- Where no id of a package has a colon, a key belongs to one package and one definition. -/
theorem faithful_of_plain {base : Nat} {offers : List (Offer δ)} {package : PackageInfo}
    (plain : ∀ offer ∈ offers, ':' ∉ offer.package.id.toList)
    (own : ':' ∉ package.id.toList) (definition : String) :
    Faithful base offers package definition := by
  refine Offer.Reclaimed.faithful fun earlier offer later split intrudes => ?_
  have member : offer ∈ offers := by simp [split]
  rcases intrudes.colon_mem with foreign | here
  · exact absurd foreign (plain offer member)
  · exact absurd here own

/-- Whatever packages offer, a key finds the last definition of its package under its id, and keeps
the number of that definition, exactly if since the last intrusion the package's own definition was
taken again. -/
theorem key_faithful_iff (base : Nat) (offers : List (Offer δ)) (package : PackageInfo)
    (definition : String) :
    Faithful base offers package definition ↔
      Offer.Reclaimed offers package.id definition := by
  refine ⟨fun faithful earlier offer later split intrudes => ?_, Offer.Reclaimed.faithful⟩
  have tallied := Registry.tallied_offerAll base offers
  have keyed := (offer.taken_key_iff package definition).2 (.inr intrudes)
  have present : ((Registry.empty base).offerAll offers).byKey? (package.qualify definition) ≠
      none := by
    intro absent
    have member : offer ∈ offers := by simp [split]
    exact (tallied.account.absent _).1 absent offer member keyed.1 keyed.2
  obtain ⟨entry, found⟩ := Option.ne_none_iff_exists'.1 present
  -- What the key finds is of the package, and nothing was taken under the key since.
  obtain ⟨_, owner, _, _, own, _, same⟩ := (faithful.finds entry).1 found
  obtain ⟨front, last, back, split', taken, lastKey, none, same'⟩ := (tallied.latest _ _).1 found
  have lastOwn : last.IsOf package.id definition := by
    have samePackage : owner.package = last.package :=
      congrArg Entry.package (same.symm.trans same')
    have sameDefinition : owner.definition = last.definition :=
      congrArg Entry.definition (same.symm.trans same')
    exact ⟨taken, samePackage ▸ own.2.1, sameDefinition ▸ own.2.2⟩
  rcases List.append_eq_append_iff.1 (split.symm.trans split') with
    ⟨between, _, rest⟩ | ⟨between, _, rest⟩
  · rcases between with _ | ⟨first, between⟩
    · obtain ⟨rfl, _⟩ := List.cons.inj rest
      exact absurd lastOwn.2.1 intrudes.package_ne
    · obtain ⟨_, rfl⟩ := List.cons.inj rest
      exact ⟨last, by simp, lastOwn⟩
  · rcases between with _ | ⟨first, between⟩
    · obtain ⟨rfl, _⟩ := List.cons.inj rest
      exact absurd lastOwn.2.1 intrudes.package_ne
    · obtain ⟨_, rfl⟩ := List.cons.inj rest
      exact absurd keyed.2 (none offer (by simp) keyed.1)

/-- An item of the package "plum" under an id with a colon, and one of the package "plum:jam". -/
def plumOffers : List (Offer ItemDefinition) :=
  [⟨.inMemory "plum", { id := "jam:red" }⟩, ⟨.inMemory "plum:jam", { id := "red" }⟩]

/-- The second item takes the key of the first, and the number of the first goes out of use. -/
theorem plum_loses_jam :
    let registry := (Registry.empty 60000).offerAll plumOffers
    (registry.byKey? ((PackageInfo.inMemory "plum").qualify "jam:red")).map
        (fun entry => (entry.package.id, entry.definition.id, entry.id)) =
      some ("plum:jam", "red", 60001) ∧
    registry.isRegistered 60000 = false ∧
    ¬ Faithful 60000 plumOffers (.inMemory "plum") "jam:red" := by
  have unregistered :
      ((Registry.empty 60000).offerAll plumOffers).isRegistered 60000 = false := by decide
  refine ⟨by decide, unregistered, fun faithful => ?_⟩
  have kept := faithful.keeps [] ⟨.inMemory "plum", { id := "jam:red" }⟩
    [⟨.inMemory "plum:jam", { id := "red" }⟩] rfl ⟨by decide, rfl, rfl⟩ (by decide)
  have registered := kept.2 fun next member own => by
    rw [List.mem_singleton.1 member] at own
    exact absurd own.2.1 (by decide)
  exact absurd registered (Bool.eq_false_iff.1 unregistered)

end Modpack
