import Mathlib.Data.List.Perm.Basic
import Modpack.Proofs.Contents
import Modpack.Proofs.ItemReferences

/-!
# The same definitions under other numbers

Definitions with distinct keys may be offered to a registry in any order: its entries are the same
up to their order and their numbers. Keys and names then find entries that differ in their numbers
only, and a reference that means no number of the registry itself resolves to the same item, under
the number it has there. The renaming leads from the numbers of one registry to those of the other
and leaves all other numbers alone.
-/
namespace Modpack

variable {δ : Type}

/-! ## Entries -/

namespace Entry

/-- An entry without its number and the record last written for it. -/
def unnumbered (entry : Entry δ) : Entry δ :=
  { entry with id := 0, materialized := none }

/-- Entries that differ in their numbers only have the same key, package and definition. -/
theorem of_unnumbered_eq {left right : Entry δ} (same : left.unnumbered = right.unnumbered) :
    left.key = right.key ∧ left.package = right.package ∧ left.definition = right.definition := by
  have key : left.unnumbered.key = right.unnumbered.key := congrArg Entry.key same
  have package : left.unnumbered.package = right.unnumbered.package := congrArg Entry.package same
  have definition : left.unnumbered.definition = right.unnumbered.definition :=
    congrArg Entry.definition same
  exact ⟨key, package, definition⟩

end Entry

variable [Definition δ]

/-- The entry of a definition, without a number. -/
def Offer.unnumbered (offer : Offer δ) : Entry δ :=
  { key := offer.key, id := 0, package := offer.package, definition := offer.definition }

/-- The definitions that are taken all have keys of their own. -/
def Offer.DistinctKeys (offers : List (Offer δ)) : Prop :=
  ((offers.filter isTaken).map key).Nodup

instance (offers : List (Offer δ)) : Decidable (Offer.DistinctKeys offers) :=
  inferInstanceAs (Decidable ((offers.filter Offer.isTaken).map Offer.key).Nodup)

/-- Whether keys are distinct does not depend on the order. -/
theorem Offer.DistinctKeys.of_perm {offers reordered : List (Offer δ)}
    (distinct : Offer.DistinctKeys offers) (perm : offers.Perm reordered) :
    Offer.DistinctKeys reordered :=
  ((perm.filter isTaken).map key).nodup_iff.1 distinct

namespace Registry

/-- Two registries have the same definitions, in any order and under any numbers. -/
structure Renumbers (left right : Registry δ) : Prop where
  /-- The indexes of the one lead to its entries. -/
  leftIndexed : left.Indexed
  /-- So do those of the other. -/
  rightIndexed : right.Indexed
  /-- They have the same entries but for the order and the numbers. -/
  entries : (left.entries.map Entry.unnumbered).Perm (right.entries.map Entry.unnumbered)

/-! ## Registering in another order -/

/-- When all keys are distinct, the entries are those of the definitions taken. -/
theorem mem_unnumbered_iff {base : Nat} {offers : List (Offer δ)}
    (distinct : Offer.DistinctKeys offers) (entry : Entry δ) :
    entry ∈ ((empty base).offerAll offers).entries.map Entry.unnumbered ↔
      ∃ offer ∈ offers, offer.isTaken = true ∧ offer.unnumbered = entry := by
  have tallied := tallied_offerAll base offers
  rw [List.mem_map]
  constructor
  · rintro ⟨numbered, member, rfl⟩
    obtain ⟨earlier, offer, later, split, taken, _, _, rfl⟩ := tallied.mem_iff.1 member
    exact ⟨offer, by simp [split], taken, rfl⟩
  · rintro ⟨offer, member, taken, rfl⟩
    obtain ⟨earlier, later, split⟩ := List.append_of_mem member
    have last : ∀ next ∈ later, next.isTaken = true → next.key ≠ offer.key := by
      intro next inLater nextTaken same
      have once : (((earlier ++ offer :: later).filter Offer.isTaken).map Offer.key).Nodup :=
        split ▸ distinct
      rw [List.filter_append, List.filter_cons_of_pos taken, List.map_append, List.map_cons,
        List.nodup_append', List.nodup_cons] at once
      refine once.2.1.1 (List.mem_map.2 ⟨next, List.mem_filter.2 ⟨inLater, nextTaken⟩, same⟩)
    exact ⟨offer.entry base earlier,
      tallied.mem_iff.2 ⟨earlier, offer, later, split, taken, rfl, last, rfl⟩, rfl⟩

/-- Definitions with distinct keys may be offered in any order. -/
theorem renumbers_of_perm (base : Nat) {offers reordered : List (Offer δ)}
    (perm : offers.Perm reordered) (distinct : Offer.DistinctKeys offers) :
    ((empty base).offerAll offers).Renumbers ((empty base).offerAll reordered) := by
  have distinct' := distinct.of_perm perm
  have left := (tallied_offerAll base offers).indexed
  have right := (tallied_offerAll base reordered).indexed
  have once {registry : Registry δ} (indexed : registry.Indexed) :
      (registry.entries.map Entry.unnumbered).Nodup := by
    have keys : (registry.entries.map Entry.unnumbered).map Entry.key =
        registry.entries.map Entry.key := by
      rw [List.map_map]
      rfl
    exact List.Nodup.of_map Entry.key (keys ▸ indexed.nodup_keys)
  refine ⟨left, right, (List.perm_ext_iff_of_nodup (once left) (once right)).2 fun entry => ?_⟩
  rw [mem_unnumbered_iff distinct, mem_unnumbered_iff distinct']
  simp only [perm.mem_iff]

namespace Renumbers

variable {left right : Registry δ}

/-! ## Looking up -/

/-- What a key finds differs in its number only. -/
theorem byKey? (renumbers : left.Renumbers right) (key : String) :
    (left.byKey? key).map Entry.unnumbered = (right.byKey? key).map Entry.unnumbered := by
  have found {registry : Registry δ} (indexed : registry.Indexed) (entry : Entry δ) :
      (registry.byKey? key).map Entry.unnumbered = some entry ↔
        entry ∈ registry.entries.map Entry.unnumbered ∧ entry.key = key := by
    rw [Option.map_eq_some_iff, List.mem_map]
    simp only [indexed.byKey?_eq_some_iff]
    constructor
    · rintro ⟨numbered, ⟨member, key⟩, rfl⟩
      exact ⟨⟨numbered, member, rfl⟩, key⟩
    · rintro ⟨⟨numbered, member, rfl⟩, key⟩
      exact ⟨numbered, ⟨member, key⟩, rfl⟩
  refine Option.ext fun entry => ?_
  rw [found renumbers.leftIndexed, found renumbers.rightIndexed, renumbers.entries.mem_iff]

/-- The entries that a key finds in both differ in their numbers only. -/
theorem twins_of_byKey? (renumbers : left.Renumbers right) {key : String} {entry twin : Entry δ}
    (here : left.byKey? key = some entry) (there : right.byKey? key = some twin) :
    entry ∈ left.entries ∧ twin ∈ right.entries ∧ entry.unnumbered = twin.unnumbered := by
  have same := renumbers.byKey? key
  rw [here, there] at same
  exact ⟨(renumbers.leftIndexed.byKey?_eq_some_iff.1 here).1,
    (renumbers.rightIndexed.byKey?_eq_some_iff.1 there).1, Option.some.inj same⟩

/-- What a name finds differs in its number only. -/
theorem byName? (renumbers : left.Renumbers right) (name : String) :
    (left.byName? name).map Entry.unnumbered = (right.byName? name).map Entry.unnumbered := by
  have named (registry : Registry δ) :
      (registry.entries.filter fun entry => hasName entry.key name).map Entry.unnumbered =
        (registry.entries.map Entry.unnumbered).filter fun entry => hasName entry.key name := by
    rw [List.filter_map]
    rfl
  have perm := renumbers.entries.filter fun entry => hasName entry.key name
  rw [← named, ← named] at perm
  rw [Registry.byName?, Registry.byName?]
  by_cases unnamed : name = ""
  · rw [if_pos unnamed, if_pos unnamed]
  · rw [if_neg unnamed, if_neg unnamed]
    generalize (left.entries.filter fun entry => hasName entry.key name) = first at perm ⊢
    generalize (right.entries.filter fun entry => hasName entry.key name) = second at perm ⊢
    -- A name finds an entry only if it is the only one of the name.
    rcases first with _ | ⟨entry, _ | ⟨next, rest⟩⟩
    · obtain rfl : second = [] := by simpa using perm
      rfl
    · have one : second.map Entry.unnumbered = [entry.unnumbered] :=
        (List.singleton_perm.1 perm).symm
      obtain ⟨twin, rfl, same⟩ := List.map_eq_singleton_iff.1 one
      exact congrArg some same.symm
    · have several := perm.length_eq
      rcases second with _ | ⟨twin, _ | ⟨next', rest'⟩⟩
      · simp at several
      · simp at several
      · rfl

/-! ## Renaming -/

end Renumbers

/-- The number that the definition with a number has in the other registry; what is no number of
the registry stays as it is. -/
def renumber (left right : Registry δ) (id : Nat) : Nat :=
  match left.byId? id with
  | some entry => ((right.byKey? entry.key).map Entry.id).getD id
  | none => id

namespace Renumbers

variable {left right : Registry δ}

/-- The renaming leads from the number of an entry to that of its counterpart. -/
theorem renumber_eq (renumbers : left.Renumbers right) {entry twin : Entry δ}
    (member : entry ∈ left.entries) (twinMember : twin ∈ right.entries)
    (same : entry.unnumbered = twin.unnumbered) (makes : entry.isPatch = false) :
    left.renumber right entry.id = twin.id := by
  have key : twin.key = entry.key := (Entry.of_unnumbered_eq same).1.symm
  have here := renumbers.leftIndexed.byId?_eq_some_iff.2 ⟨member, makes, rfl⟩
  have there := renumbers.rightIndexed.byKey?_eq_some_iff.2 ⟨twinMember, key⟩
  rw [renumber, here]
  simp only [there, Option.map_some, Option.getD_some]

/-- While the counter is in range, the renaming leaves the numbers below the base alone. -/
theorem renumber_of_lt (renumbers : left.Renumbers right) {known : δ → Prop}
    (sound : left.Sound known) (inRange : left.InRange) {id : Nat} (below : id < left.base) :
    left.renumber right id = id := by
  have absent : left.byId? id = none := by
    rw [Option.eq_none_iff_forall_ne_some]
    intro entry found
    obtain ⟨member, makes, same⟩ := renumbers.leftIndexed.byId?_eq_some_iff.1 found
    have above := (sound.bounds inRange member makes).1
    omega
  rw [renumber, absent]

end Renumbers

end Registry

/-! ## References -/

/-- Every number that a reference means stands below a bound. -/
def ItemRef.Below (bound : Nat) : ItemRef → Prop
  | .id number => number < bound
  | .name text => ∀ number, Whole.id? text.toList = some number → number < bound

instance (bound : Nat) (reference : ItemRef) : Decidable (reference.Below bound) :=
  match reference with
  | .id number => inferInstanceAs (Decidable (number < bound))
  | .name text =>
    inferInstanceAs (Decidable (∀ number ∈ Whole.id? text.toList, number < bound))

/-- While the counter is in range, a reference that means no number from the base on resolves to the
same item in both, under its number there. -/
theorem Registry.Renumbers.resolveItem? {left right : Registry ItemDefinition}
    (renumbers : left.Renumbers right) {known : ItemDefinition → Prop} (sound : left.Sound known)
    (inRange : left.InRange) (makes : ∀ entry ∈ left.entries, entry.isPatch = false)
    (package : String) {reference : ItemRef} (below : reference.Below left.base) :
    right.resolveItem? package reference =
      (left.resolveItem? package reference).map (left.renumber right) := by
  cases reference with
  | id number => exact congrArg some (renumbers.renumber_of_lt sound inRange below).symm
  | name name =>
    cases whole : Whole.id? name.toList with
    | some number =>
      rw [right.resolveItem?_of_read package whole, left.resolveItem?_of_read package whole]
      exact congrArg some (renumbers.renumber_of_lt sound inRange (below number whole)).symm
    | none =>
      have found : (left.referent? package name).map Entry.unnumbered =
          (right.referent? package name).map Entry.unnumbered := by
        simp only [Registry.referent?, Option.map_or, renumbers.byKey?, renumbers.byName?]
      rw [right.resolveItem?_of_unread package whole, left.resolveItem?_of_unread package whole]
      cases here : left.referent? package name with
      | none =>
        rw [here, Option.map_none, eq_comm, Option.map_eq_none_iff] at found
        rw [found]
        rfl
      | some entry =>
        rw [here, Option.map_some, eq_comm, Option.map_eq_some_iff] at found
        obtain ⟨twin, there, same⟩ := found
        have member := (renumbers.leftIndexed.referent?_eq_some_iff.1 here).1
        have twinMember := (renumbers.rightIndexed.referent?_eq_some_iff.1 there).1
        rw [there, Option.map_some, Option.map_some, Option.map_some,
          renumbers.renumber_eq member twinMember same.symm (makes entry member)]

/-! ## Graphs of quests -/

/-- A condition with its item renamed. -/
def WaitCondition.renumber (rename : Nat → Nat) (condition : WaitCondition) : WaitCondition :=
  .atLeast (rename condition.item) condition.threshold

/-- What happens at a node, with the item waited for renamed. -/
def NodeKind.renumber (rename : Nat → Nat) : NodeKind → NodeKind
  | .wait note doneAfterSuccess condition =>
    .wait note doneAfterSuccess (condition.map (WaitCondition.renumber rename))
  | kind => kind

/-- A node with the item waited for renamed. -/
def QuestNode.renumber (rename : Nat → Nat) (node : QuestNode) : QuestNode :=
  { node with kind := node.kind.renumber rename }

/-- A graph with all items waited for renamed. -/
def QuestGraph.renumber (rename : Nat → Nat) (graph : QuestGraph) : QuestGraph :=
  { graph with nodes := graph.nodes.map (QuestNode.renumber rename) }

section Graphs

variable {left right : Registry ItemDefinition} {rename : Nat → Nat} {package : PackageInfo}

/-- The condition of a wait for an item that is resolved under another number. -/
theorem WaitDefinition.condition?_renumber {wait : WaitDefinition}
    (resolves : ∀ reference, wait.item = some reference →
      right.resolveItem? package.id reference =
        (left.resolveItem? package.id reference).map rename) :
    wait.condition? package right =
      (wait.condition? package left).map (WaitCondition.renumber rename) := by
  rw [condition?, condition?]
  by_cases waits : wait.isItem = true
  · rw [if_pos waits, if_pos waits]
    cases named : wait.item with
    | none => rfl
    | some reference =>
      rw [Option.bind_some, Option.bind_some, resolves reference named, Option.map_map,
        Option.map_map]
      rfl
  · rw [if_neg waits, if_neg waits]
    rfl

/-- The node of a stage that waits for an item resolved under another number. -/
theorem StageDefinition.compile_renumber {stage : StageDefinition} (quest : QuestDefinition)
    (resolves : ∀ wait, stage.wait = some wait → ∀ reference, wait.item = some reference →
      right.resolveItem? package.id reference =
        (left.resolveItem? package.id reference).map rename) :
    stage.compile package quest right =
      (stage.compile package quest left).renumber rename := by
  have kind : stage.nodeKind package quest right =
      (stage.nodeKind package quest left).renumber rename := by
    rw [nodeKind, nodeKind]
    cases stage.stageType with
    | dialogue | action | unknown => rfl
    | wait =>
      cases waits : stage.wait with
      | none => rfl
      | some wait =>
        simp only [Option.bind_some, WaitDefinition.condition?_renumber (resolves wait waits)]
        rfl
  rw [compile, kind]
  rfl

/-- The graph of a quest that waits for items resolved under other numbers. -/
theorem Entry.graph_renumber {entry twin : Entry QuestDefinition}
    (same : entry.unnumbered = twin.unnumbered)
    (resolves : ∀ stage ∈ entry.definition.stages, ∀ wait, stage.wait = some wait →
      ∀ reference, wait.item = some reference →
        right.resolveItem? entry.package.id reference =
          (left.resolveItem? entry.package.id reference).map rename) :
    twin.graph right = (entry.graph left).renumber rename := by
  obtain ⟨key, package, definition⟩ := Entry.of_unnumbered_eq same
  have nodes : (entry.definition.stages.map fun stage =>
        stage.compile entry.package entry.definition right) =
      (entry.definition.stages.map fun stage =>
        stage.compile entry.package entry.definition left).map (QuestNode.renumber rename) := by
    rw [List.map_map]
    exact List.map_congr_left fun stage member =>
      stage.compile_renumber entry.definition (resolves stage member)
  rw [Entry.graph, Entry.graph, ← key, ← package, ← definition, QuestDefinition.compile, nodes]
  rfl

end Graphs

end Modpack
