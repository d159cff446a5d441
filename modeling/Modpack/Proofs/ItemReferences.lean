import Mathlib.Data.List.Perm.Basic
import Modpack.Proofs.Numbering

/-!
# What a name of an item means

A name that is not the text of a number is looked up in three ways: as a definition of the package
that uses it, as a key, and as the end of a key with case apart. Which entry is found depends on
the keys alone. The first two ways find the entry of one key; the third answers only where a single
key ends in the name, so it does not matter in which order the keys stand. Registries with the same
keys therefore give a name the same meaning, whatever was offered to them and in whatever order.
-/
namespace Modpack

/-! ## Keys and their ends -/

/-- A key ends in a colon and a name, case apart. -/
def EndsIn (key name : String) : Prop :=
  (':' :: Text.lower name.toList) <:+ Text.lower key.toList

instance (key name : String) : Decidable (EndsIn key name) :=
  inferInstanceAs (Decidable ((':' :: Text.lower name.toList) <:+ Text.lower key.toList))

/-- The key that a name means among keys, as seen from a package. -/
inductive Means (keys : List String) (package name : String) : String → Prop
  /-- It is the key of the package's own definition. -/
  | own (there : package ++ ":" ++ name ∈ keys) : Means keys package name (package ++ ":" ++ name)
  /-- The package has no such definition, and the name is a key itself. -/
  | whole (notOwn : package ++ ":" ++ name ∉ keys) (there : name ∈ keys) :
      Means keys package name name
  /-- It is neither of these, and one key only ends in the name. -/
  | ending {key : String} (notOwn : package ++ ":" ++ name ∉ keys) (notWhole : name ∉ keys)
      (named : name ≠ "") (there : key ∈ keys) (ends : EndsIn key name)
      (only : ∀ other ∈ keys, EndsIn other name → other = key) : Means keys package name key

namespace Means

variable {keys keys' : List String} {package name key key' : String}

/-- What a name means is one of the keys. -/
theorem mem (means : Means keys package name key) : key ∈ keys := by
  cases means with
  | own there => exact there
  | whole _ there => exact there
  | ending _ _ _ there => exact there

/-- A name means one key at most. -/
theorem unique (first : Means keys package name key) (second : Means keys package name key') :
    key = key' := by
  cases first with
  | own there =>
    cases second with
    | own => rfl
    | whole notOwn => exact absurd there notOwn
    | ending notOwn => exact absurd there notOwn
  | whole notOwn there =>
    cases second with
    | own there' => exact absurd there' notOwn
    | whole => rfl
    | ending _ notWhole => exact absurd there notWhole
  | ending notOwn notWhole _ there ends =>
    cases second with
    | own there' => exact absurd there' notOwn
    | whole _ there' => exact absurd there' notWhole
    | ending _ _ _ _ _ only => exact only key there ends

/-- What a name means depends only on which keys there are. -/
theorem of_mem_iff (means : Means keys package name key)
    (same : ∀ other, other ∈ keys ↔ other ∈ keys') : Means keys' package name key := by
  cases means with
  | own there => exact .own ((same _).1 there)
  | whole notOwn there => exact .whole (mt (same _).2 notOwn) ((same _).1 there)
  | ending notOwn notWhole named there ends only =>
    exact .ending (mt (same _).2 notOwn) (mt (same _).2 notWhole) named ((same _).1 there) ends
      fun other member => only other ((same other).2 member)

end Means

/-! ## Looking names up -/

/-- One entry of a list without repetition passes a test exactly when it does and no other does. -/
theorem filter_eq_singleton_iff {α : Type} {list : List α} (distinct : list.Nodup)
    {test : α → Bool} {one : α} :
    list.filter test = [one] ↔
      one ∈ list ∧ test one = true ∧ ∀ other ∈ list, test other = true → other = one := by
  constructor
  · intro single
    have passing (other : α) : other ∈ list ∧ test other = true ↔ other = one := by
      rw [← List.mem_filter, single, List.mem_singleton]
    have here := (passing one).2 rfl
    exact ⟨here.1, here.2, fun other member passes => (passing other).1 ⟨member, passes⟩⟩
  · rintro ⟨member, passes, only⟩
    have same : (list.filter test).Perm [one] := by
      refine (List.perm_ext_iff_of_nodup (distinct.filter test) (List.nodup_singleton one)).2
        fun other => ?_
      rw [List.mem_filter, List.mem_singleton]
      exact ⟨fun both => only other both.1 both.2, fun equal => equal ▸ ⟨member, passes⟩⟩
    exact List.perm_singleton.1 same

namespace Registry

variable {δ : Type}

/-- The keys of a registry. -/
def keys (registry : Registry δ) : List String :=
  registry.entries.map Entry.key

/-- A key has a name when it ends in it. -/
theorem hasName_iff {key name : String} : hasName key name = true ↔ EndsIn key name :=
  List.isSuffixOf_iff_suffix

section Lookups

variable [Definition δ] {registry : Registry δ} (indexed : registry.Indexed)
include indexed

/-- A key finds nothing exactly when it is not among the keys. -/
theorem Indexed.byKey?_eq_none_iff {key : String} :
    registry.byKey? key = none ↔ key ∉ registry.keys := by
  rw [Option.eq_none_iff_forall_ne_some, Registry.keys, List.mem_map]
  simp only [ne_eq, indexed.byKey?_eq_some_iff, not_exists]

/-- Entries of one key are the same entry. -/
theorem Indexed.eq_of_key_eq {entry other : Entry δ} (member : entry ∈ registry.entries)
    (otherMember : other ∈ registry.entries) (same : other.key = entry.key) : other = entry := by
  have found := indexed.byKey?_eq_some_iff.2 ⟨member, rfl⟩
  have found' := indexed.byKey?_eq_some_iff.2 ⟨otherMember, same⟩
  exact Option.some.inj (found'.symm.trans found)

/-- A name finds the entry whose key is the only one to end in it. -/
theorem Indexed.byName?_eq_some_iff {name : String} {entry : Entry δ} :
    registry.byName? name = some entry ↔
      name ≠ "" ∧ entry ∈ registry.entries ∧ EndsIn entry.key name ∧
        ∀ key ∈ registry.keys, EndsIn key name → key = entry.key := by
  have distinct : registry.entries.Nodup := List.Nodup.of_map Entry.key indexed.nodup_keys
  have single : registry.byName? name = some entry ↔
      name ≠ "" ∧ (registry.entries.filter fun other => hasName other.key name) = [entry] := by
    rw [byName?]
    by_cases unnamed : name = ""
    · simp [unnamed]
    · rw [if_neg unnamed]
      split <;> simp_all
  rw [single, filter_eq_singleton_iff distinct]
  simp only [hasName_iff, Registry.keys, List.mem_map, forall_exists_index, and_imp,
    forall_apply_eq_imp_iff₂]
  refine and_congr_right fun _ => and_congr_right fun member => and_congr_right fun _ => ?_
  exact forall₂_congr fun other otherMember => imp_congr_right fun _ =>
    ⟨fun same => same ▸ rfl, indexed.eq_of_key_eq member otherMember⟩

end Lookups

/-- The entry that a name finds, as seen from a package. -/
def referent? (items : Registry ItemDefinition) (package name : String) :
    Option (Entry ItemDefinition) :=
  (items.byKey? (package ++ ":" ++ name)).or ((items.byKey? name).or (items.byName? name))

/-- A name that is the text of a number resolves to this number. -/
theorem resolveItem?_of_read (items : Registry ItemDefinition) (package : String) {name : String}
    {number : Nat} (read : Whole.id? name.toList = some number) :
    items.resolveItem? package (.name name) = some number := by
  rw [resolveItem?, read]

/-- A name that is not the text of a number resolves to the number of the entry it finds. -/
theorem resolveItem?_of_unread (items : Registry ItemDefinition) (package : String) {name : String}
    (unread : Whole.id? name.toList = none) :
    items.resolveItem? package (.name name) = (items.referent? package name).map Entry.id := by
  rw [resolveItem?, unread]
  rfl

/-- A name finds the entry of the key it means. -/
theorem Indexed.referent?_eq_some_iff {items : Registry ItemDefinition} (indexed : items.Indexed)
    {package name : String} {entry : Entry ItemDefinition} :
    items.referent? package name = some entry ↔
      entry ∈ items.entries ∧ Means items.keys package name entry.key := by
  have listed {entry : Entry ItemDefinition} (member : entry ∈ items.entries) :
      entry.key ∈ items.keys := List.mem_map_of_mem member
  rw [referent?, Option.or_eq_some_iff, Option.or_eq_some_iff, indexed.byKey?_eq_some_iff,
    indexed.byKey?_eq_some_iff, indexed.byName?_eq_some_iff, indexed.byKey?_eq_none_iff,
    indexed.byKey?_eq_none_iff]
  constructor
  · rintro (⟨member, own⟩ | ⟨notOwn, ⟨member, whole⟩ | ⟨notWhole, named, member, ends, only⟩⟩)
    · exact ⟨member, own ▸ .own (own ▸ listed member)⟩
    · exact ⟨member, by rw [whole]; exact .whole notOwn (whole ▸ listed member)⟩
    · exact ⟨member, .ending notOwn notWhole named (listed member) ends only⟩
  · rintro ⟨member, means⟩
    generalize entry.key = key at means ⊢
    cases means with
    | own => exact .inl ⟨member, rfl⟩
    | whole notOwn => exact .inr ⟨notOwn, .inl ⟨member, rfl⟩⟩
    | ending notOwn notWhole named _ ends only =>
      exact .inr ⟨notOwn, .inr ⟨notWhole, named, member, ends, only⟩⟩

section Resolving

variable {items : Registry ItemDefinition} (indexed : items.Indexed) {package name : String}
  (unread : Whole.id? name.toList = none)
include indexed unread

/-- A name resolves to the number of the entry whose key it means. -/
theorem Indexed.resolveItem?_of_means {entry : Entry ItemDefinition}
    (member : entry ∈ items.entries) (means : Means items.keys package name entry.key) :
    items.resolveItem? package (.name name) = some entry.id := by
  have found := indexed.referent?_eq_some_iff.2 ⟨member, means⟩
  rw [items.resolveItem?_of_unread package unread, found, Option.map_some]

/-- A name that means no key resolves to nothing. -/
theorem Indexed.resolveItem?_of_meaningless
    (meaningless : ∀ key, ¬ Means items.keys package name key) :
    items.resolveItem? package (.name name) = none := by
  rw [items.resolveItem?_of_unread package unread, Option.map_eq_none_iff,
    Option.eq_none_iff_forall_ne_some]
  intro entry found
  exact meaningless entry.key (indexed.referent?_eq_some_iff.1 found).2

end Resolving

end Registry

/-! ## The meaning of a name -/

/-- In a registry that was filled by offers, whatever was written for its entries since, a name that
is not the text of a number resolves to the number of the entry whose key it means, and to nothing
if it means no key. In any two such registries with the same keys it resolves to entries of one key,
or to nothing in both. -/
theorem reference_means_one_key {base : Nat} {offers : List (Offer ItemDefinition)}
    {items : Registry ItemDefinition}
    (built : items.forget = ((Registry.empty base).offerAll offers).forget) (package : String)
    {name : String} (unread : Whole.id? name.toList = none) :
    (∀ entry ∈ items.entries, Means items.keys package name entry.key →
      items.resolveItem? package (.name name) = some entry.id) ∧
    ((∀ key, ¬ Means items.keys package name key) →
      items.resolveItem? package (.name name) = none) ∧
    ∀ (base' : Nat) (offers' : List (Offer ItemDefinition)) (items' : Registry ItemDefinition),
      items'.forget = ((Registry.empty base').offerAll offers').forget →
      (∀ key, key ∈ items.keys ↔ key ∈ items'.keys) →
        (items.resolveItem? package (.name name) = none ∧
          items'.resolveItem? package (.name name) = none) ∨
        ∃ entry ∈ items.entries, ∃ entry' ∈ items'.entries, entry.key = entry'.key ∧
          Means items.keys package name entry.key ∧
          items.resolveItem? package (.name name) = some entry.id ∧
          items'.resolveItem? package (.name name) = some entry'.id := by
  have indexed : items.Indexed := (Registry.tallied_offerAll base offers).indexed.of_forget_eq built
  refine ⟨fun entry member means => indexed.resolveItem?_of_means unread member means,
    indexed.resolveItem?_of_meaningless unread, ?_⟩
  intro base' offers' items' built' same
  have indexed' : items'.Indexed :=
    (Registry.tallied_offerAll base' offers').indexed.of_forget_eq built'
  by_cases meaningful : ∃ key, Means items.keys package name key
  · obtain ⟨key, means⟩ := meaningful
    have means' : Means items'.keys package name key := means.of_mem_iff same
    obtain ⟨entry, member, rfl⟩ := List.mem_map.1 means.mem
    obtain ⟨entry', member', sameKey⟩ := List.mem_map.1 means'.mem
    rw [← sameKey] at means'
    exact .inr ⟨entry, member, entry', member', sameKey.symm, means,
      indexed.resolveItem?_of_means unread member means,
      indexed'.resolveItem?_of_means unread member' means'⟩
  · have meaningless : ∀ key, ¬ Means items.keys package name key := not_exists.1 meaningful
    have meaningless' : ∀ key, ¬ Means items'.keys package name key := fun key means' =>
      meaningless key (means'.of_mem_iff fun other => (same other).symm)
    exact .inl ⟨indexed.resolveItem?_of_meaningless unread meaningless,
      indexed'.resolveItem?_of_meaningless unread meaningless'⟩

/-- Offers of two farms, the first of which grows what the second grows as well. -/
def farmOffers : List (Offer ItemDefinition) :=
  [("north", "onion"), ("south", "onion"), ("south", "Leek")].map fun item =>
    ⟨.inMemory item.1, { id := item.2 }⟩

/-- The same offers in another order, one of them made twice. -/
def lateFarmOffers : List (Offer ItemDefinition) :=
  farmOffers.reverse ++ farmOffers.take 1

/-- Under either numbering the leek of the south is what a market means by a leek, and the onions of
two farms are no onion of the market. -/
theorem market_finds_leek :
    let items := (Registry.empty 60000).offerAll farmOffers
    let items' := (Registry.empty 60000).offerAll lateFarmOffers
    Whole.id? "leek".toList = none ∧ (∀ key, key ∈ items.keys ↔ key ∈ items'.keys) ∧
    Means items.keys "market" "leek" "south:Leek" ∧
    items.resolveItem? "market" (.name "leek") = some 60002 ∧
    items'.resolveItem? "market" (.name "leek") = some 60000 ∧
    Whole.id? "onion".toList = none ∧ (∀ key, ¬ Means items.keys "market" "onion" key) ∧
    items.resolveItem? "market" (.name "onion") = none := by
  intro items items'
  have perm : items.keys.Perm items'.keys := by decide
  have same (key : String) : key ∈ items.keys ↔ key ∈ items'.keys := perm.mem_iff
  have leek : Means items.keys "market" "leek" "south:Leek" :=
    .ending (by decide) (by decide) (by decide) (by decide) (by decide) (by decide)
  have onion : ∀ key, ¬ Means items.keys "market" "onion" key := by
    intro key means
    cases means with
    | own there => exact absurd there (by decide)
    | whole _ there => exact absurd there (by decide)
    | ending _ _ _ _ _ only =>
      have north := only "north:onion" (by decide) (by decide)
      have south := only "south:onion" (by decide) (by decide)
      exact absurd (north.trans south.symm) (by decide)
  have unread : Whole.id? "leek".toList = none := by decide
  have onionUnread : Whole.id? "onion".toList = none := by decide
  have numbers : (∀ entry ∈ items.entries, entry.key = "south:Leek" → entry.id = 60002) ∧
      ∀ entry ∈ items'.entries, entry.key = "south:Leek" → entry.id = 60000 := by decide
  have built : items.forget = ((Registry.empty 60000).offerAll farmOffers).forget := rfl
  obtain ⟨_, _, both⟩ := reference_means_one_key built "market" unread
  obtain ⟨_, nothing, _⟩ := reference_means_one_key built "market" onionUnread
  rcases both 60000 lateFarmOffers items' rfl same with
    ⟨unresolved, _⟩ | ⟨entry, member, entry', member', sameKey, means, number, number'⟩
  · exact absurd unresolved (by decide)
  · have key : entry.key = "south:Leek" := means.unique leek
    rw [numbers.1 entry member key] at number
    rw [numbers.2 entry' member' (sameKey.symm.trans key)] at number'
    exact ⟨unread, same, leek, number, number', onionUnread, onion, nothing onion⟩

end Modpack
