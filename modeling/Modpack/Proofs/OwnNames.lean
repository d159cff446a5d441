import Modpack.Proofs.ItemReferences
import Modpack.Proofs.LowerCase

/-!
# Names of a package's own items

Every item has a name in its own package: the id under which it is declared, unless this is the text
of a number, which means that number. Its id is also a name for all packages, as the end of a key,
unless another key ends in it as well. There the id is compared in lower case with a part of a key
in lower case, and the lower case of the part may depend on the package before it; where it does
not, the item is found exactly if no other key ends in its id.
-/
namespace Modpack

/-! ## Keys that end in their own name -/

/-- The lower case of a name is another one behind the id of a package than alone: the id ends in a
cased character and the name begins with a capital sigma that no cased character follows, characters
ignorable for case passed over. -/
def CasedByPackage (package name : String) : Prop :=
  Text.casedNext package.toList.reverse = true ∧ Text.beginsWithFinalSigma name.toList = true

instance (package name : String) : Decidable (CasedByPackage package name) :=
  inferInstanceAs (Decidable (_ ∧ _))

/-- A key ends in the name it is made of exactly when the package does not change its lower case. -/
theorem endsIn_own_iff (package name : String) :
    EndsIn (package ++ ":" ++ name) name ↔ ¬ CasedByPackage package name := by
  have text : (package ++ ":" ++ name).toList = package.toList ++ ':' :: name.toList := by simp
  rw [EndsIn, text]
  exact Text.colon_lower_suffix_iff package.toList name.toList

/-! ## Finding an item by its id -/

namespace Registry

variable {δ : Type} [Definition δ]

/-- An entry whose key ends in its own id is found by this name exactly if no other key ends in
it. -/
theorem Indexed.byName?_own_iff {registry : Registry δ} (indexed : registry.Indexed)
    {entry : Entry δ} (member : entry ∈ registry.entries)
    (named : Definition.id entry.definition ≠ "")
    (ends : EndsIn entry.key (Definition.id entry.definition)) :
    registry.byName? (Definition.id entry.definition) = some entry ↔
      ∀ key ∈ registry.keys, key ≠ entry.key → ¬ EndsIn key (Definition.id entry.definition) := by
  rw [indexed.byName?_eq_some_iff]
  constructor
  · rintro ⟨_, _, _, only⟩ key isKey other ends'
    exact other (only key isKey ends')
  · intro apart
    refine ⟨named, member, ends, fun key isKey ends' => ?_⟩
    by_contra other
    exact apart key isKey other ends'

end Registry

/-- Every item of a registry that was filled by offers, whatever was written for its entries since,
is what its own package means by its id, unless the id is the text of a number, which means that
number. And where the lower case of the id does not depend on the package, the item is found as the
end of a key exactly if no other key ends in its id. -/
theorem own_items_are_named {base : Nat} {offers : List (Offer ItemDefinition)}
    {items : Registry ItemDefinition}
    (built : items.forget = ((Registry.empty base).offerAll offers).forget)
    {entry : Entry ItemDefinition} (member : entry ∈ items.entries) :
    let package := entry.package.id
    let name := entry.definition.id
    items.resolveItem? package (.name name) = some ((Whole.id? name.toList).getD entry.id) ∧
    (¬ CasedByPackage package name →
      (items.byName? name = some entry ↔
        ∀ key ∈ items.keys, key ≠ entry.key → ¬ EndsIn key name)) := by
  intro package name
  have tallied := Registry.tallied_offerAll base offers
  have indexed : items.Indexed := tallied.indexed.of_forget_eq built
  obtain ⟨key, named⟩ : entry.key = package ++ ":" ++ name ∧ name ≠ "" :=
    tallied.key_of_mem built member
  constructor
  · cases read : Whole.id? name.toList with
    | some number => exact items.resolveItem?_of_read package read
    | none =>
      have listed : entry.key ∈ items.keys := List.mem_map_of_mem member
      have means : Means items.keys package name entry.key := by
        rw [key] at listed ⊢
        exact .own listed
      exact indexed.resolveItem?_of_means read member means
  · intro plain
    have ends : EndsIn entry.key name := by
      rw [key]
      exact (endsIn_own_iff package name).2 plain
    exact indexed.byName?_own_iff member named ends

/-- Items of a shop of symbols: a number, a capital sigma, and a word that begins with one. -/
def shopOffers : List (Offer ItemDefinition) :=
  ["42", "Σ", "Σύμβολο"].map fun id => ⟨.inMemory "shop", { id }⟩

/-- The word is found by its package and as the end of a key. -/
theorem shop_finds_word :
    let items := (Registry.empty 60000).offerAll shopOffers
    ∃ entry ∈ items.entries, entry.package.id = "shop" ∧ entry.definition.id = "Σύμβολο" ∧
      ¬ CasedByPackage "shop" "Σύμβολο" ∧
      items.resolveItem? "shop" (.name "Σύμβολο") = some 60002 ∧
      items.byName? "Σύμβολο" = some entry := by
  intro items
  obtain ⟨entry, member, package, definition, key, number⟩ : ∃ entry ∈ items.entries,
      entry.package.id = "shop" ∧ entry.definition.id = "Σύμβολο" ∧
        entry.key = "shop:Σύμβολο" ∧ entry.id = 60002 := by decide +kernel
  have plain : ¬ CasedByPackage "shop" "Σύμβολο" := by decide +kernel
  have unread : Whole.id? "Σύμβολο".toList = none := by decide +kernel
  have apart : ∀ key ∈ items.keys, key ≠ "shop:Σύμβολο" → ¬ EndsIn key "Σύμβολο" := by
    decide +kernel
  have built : items.forget = ((Registry.empty 60000).offerAll shopOffers).forget := rfl
  have found := own_items_are_named built member
  simp only [package, definition, key, number, unread, Option.getD_none] at found
  exact ⟨entry, member, package, definition, plain, found.1, (found.2 plain).2 apart⟩

/-- A number is not found by its package, which means the number by it, and the sigma is not found
as the end of a key, although no other key ends in it. -/
theorem shop_misses_symbols :
    let items := (Registry.empty 60000).offerAll shopOffers
    (∃ entry ∈ items.entries, entry.package.id = "shop" ∧ entry.definition.id = "42" ∧
      entry.id = 60000 ∧ items.resolveItem? "shop" (.name "42") = some 42) ∧
    ∃ entry ∈ items.entries, entry.package.id = "shop" ∧ entry.definition.id = "Σ" ∧
      (∀ key ∈ items.keys, key ≠ entry.key → ¬ EndsIn key "Σ") ∧ items.byName? "Σ" = none := by
  decide +kernel

end Modpack
