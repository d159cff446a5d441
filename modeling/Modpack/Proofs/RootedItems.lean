import Modpack.Proofs.FailingEntries
import Modpack.Proofs.Probes
import Modpack.Proofs.Workshops

/-!
# Items that passes reach

A new item is made from its base, which may be an item made earlier. Following bases from an item
ends in the table, or at an item nobody makes, or goes round for ever; in the first case the item
is rooted. Passes make rooted items only, since a step makes an item from a base that is there. A
pass that makes nothing leaves nothing to make, and every other pass makes one of the items that are
missing, so after as many passes as there are entries all rooted items are there. The remaining
entries fail in every pass.
-/
namespace Modpack

variable {ids : IdRanges} {items : Table ItemRecord} {entries : List (Entry ItemDefinition)}

/-- Following bases from an item, through items that the table lacks, ends in the table. -/
inductive Entry.Rooted (items : Table ItemRecord) (entries : List (Entry ItemDefinition)) :
    Entry ItemDefinition → Prop
  /-- The base is in the table. -/
  | held {entry : Entry ItemDefinition}
      (present : items.contains entry.definition.baseItem = true) : Rooted items entries entry
  /-- The base is another item that the table lacks, and that one is rooted. -/
  | through {entry next : Entry ItemDefinition} (member : next ∈ entries)
      (absent : items.contains next.id = false) (same : next.id = entry.definition.baseItem)
      (rooted : Rooted items entries next) : Rooted items entries entry

/-- An id is reached when the table has it or it is that of a rooted item. -/
def Table.Reaches (items : Table ItemRecord) (entries : List (Entry ItemDefinition)) (id : Nat) :
    Prop :=
  items.contains id = true ∨ ∃ entry ∈ entries, entry.Rooted items entries ∧ entry.id = id

/-- An item whose base is reached is rooted. -/
theorem Entry.rooted_of_reached {entry : Entry ItemDefinition}
    (reached : items.Reaches entries entry.definition.baseItem) : entry.Rooted items entries := by
  rcases reached with present | ⟨next, member, rooted, same⟩
  · exact .held present
  · cases absent : items.contains next.id with
    | false => exact .through member absent same rooted
    | true =>
      rw [same] at absent
      exact .held absent

/-- Whether an item is rooted is told from its definition. -/
theorem Entry.Rooted.of_definition_eq {left right : Entry ItemDefinition}
    (rooted : left.Rooted items entries) (same : left.definition = right.definition) :
    right.Rooted items entries := by
  cases rooted with
  | held present =>
    rw [same] at present
    exact .held present
  | through member absent base rooted =>
    rw [same] at base
    exact .through member absent base rooted

/-- Where every item is present or lacks its base, every rooted item is present. -/
theorem Entry.Rooted.present {later : Table ItemRecord}
    (kept : ∀ id, items.contains id = true → later.contains id = true)
    (done : ∀ entry ∈ entries, entry.ItemDone later) {entry : Entry ItemDefinition}
    (member : entry ∈ entries) (rooted : entry.Rooted items entries) :
    later.contains entry.id = true := by
  have baseHeld : later.contains entry.definition.baseItem = true := by
    induction rooted with
    | held present => exact kept _ present
    | through nextMember absent same rooted ih =>
      rw [← same]
      rcases done _ nextMember with present | missing
      · exact present
      · have held := ih nextMember
        rw [Table.get?_eq_none_iff.1 missing] at held
        cases held
  rcases done entry member with present | missing
  · exact present
  · rw [Table.get?_eq_none_iff.1 missing] at baseHeld
    cases baseHeld

/-! ## Steps and passes -/

/-- The tables hold reached ids only. -/
def ItemState.Within (items : Table ItemRecord) (entries : List (Entry ItemDefinition))
    (state : ItemState) : Prop :=
  ∀ id, state.tables.items.contains id = true → items.Reaches entries id

/-- A step over one of the entries makes reached items only. -/
theorem ItemState.Within.step {state : ItemState} (within : state.Within items entries)
    {entry other : Entry ItemDefinition} (member : other ∈ entries)
    (same : other.forget = entry.forget) (makes : entry.isPatch = false) {done : Step ItemState}
    (ok : itemStep ids entry state = .ok done) : done.state.Within items entries := by
  cases itemTurn_of_ok ok with
  | upToDate patches | patched patches =>
    rw [makes] at patches
    cases patches
  | present => exact within
  | made _ absent base record found accepted =>
    obtain ⟨sameId, definition, _⟩ := Entry.of_forget_eq same
    have reached := within _ (Table.contains_of_get? found)
    rw [← definition] at reached
    have rooted := Entry.rooted_of_reached reached
    intro id present
    rw [ItemPlan.carryOut_eq] at present
    rcases Table.eq_or_contains_of_set present with isEntry | before
    · exact .inr ⟨other, member, rooted, sameId.trans isEntry⟩
    · exact within id before

/-- A pass makes every new item whose base is there when it begins. -/
theorem runPass_makes {entry : Entry ItemDefinition} (member : entry ∈ entries)
    (makes : entry.isPatch = false) {state : ItemState}
    (base : state.tables.items.contains entry.definition.baseItem = true) :
    (runPass (itemStep ids) entries state).state.tables.items.contains entry.id = true := by
  induction entries generalizing state with
  | nil => cases member
  | cons head rest ih =>
    cases result : itemStep ids head state with
    | error cause =>
      rw [runPass_cons_error result]
      rcases List.mem_cons.1 member with rfl | inRest
      · have fails := (itemStep_error_iff ids entry state).1.1 ⟨cause, result⟩
        simp [Entry.ItemFails, makes, base] at fails
      · exact ih inRest base
    | ok done =>
      rw [runPass_cons_ok result]
      rcases List.mem_cons.1 member with rfl | inRest
      · exact runPass_keeps (fun state : ItemState => state.tables.items.contains entry.id = true)
          (fun _ _ _ _ ok there => itemStep_contains ok there) (itemStep_present result makes)
      · exact ih inRest (itemStep_contains result base)

/-- How many of the entries have no record. -/
def missing (items : Table ItemRecord) (entries : List (Entry ItemDefinition)) : Nat :=
  entries.countP fun entry => !items.contains entry.id

/-- A table that has all that another has, and the record of an entry that the other lacks, lacks
fewer records. -/
theorem missing_lt {later : Table ItemRecord}
    (kept : ∀ id, items.contains id = true → later.contains id = true)
    {entry : Entry ItemDefinition} (member : entry ∈ entries)
    (absent : items.contains entry.id = false) (present : later.contains entry.id = true) :
    missing later entries < missing items entries := by
  have fewer (part : List (Entry ItemDefinition)) : missing later part ≤ missing items part := by
    refine List.countP_mono_left fun other _ lacks => ?_
    rw [Bool.not_eq_true', Bool.eq_false_iff] at lacks ⊢
    exact fun held => lacks (kept _ held)
  obtain ⟨before, after, rfl⟩ := List.append_of_mem member
  have first := fewer before
  have last := fewer after
  simp only [missing, List.countP_append, List.countP_cons, absent, present] at first last ⊢
  simp only [Bool.not_true, Bool.not_false, Bool.false_eq_true, if_false, if_true]
  omega

namespace Workshop

/-- The workshop after some passes were tried. -/
def afterPasses (ids : IdRanges) (workshop : Workshop) (count : Nat) : Workshop :=
  workshop.run ids (List.replicate count .inject)

/-- One more pass goes on where the passes before it ended. -/
theorem afterPasses_succ (ids : IdRanges) (workshop : Workshop) (count : Nat) :
    workshop.afterPasses ids (count + 1) = (workshop.afterPasses ids count).inject ids := by
  rw [afterPasses, List.replicate_succ', run_append]
  rfl

/-- What passes over new items keep and come to, told from the table they began with. -/
structure Passed (workshop later : Workshop) : Prop where
  /-- The content of the registry is the same. -/
  registry : later.registry.forget = workshop.registry.forget
  /-- The table is ready. -/
  ready : later.state.tables.items.isReady = true
  /-- What was in the table is. -/
  kept : ∀ id, workshop.state.tables.items.contains id = true →
    later.state.tables.items.contains id = true
  /-- What is in the table was, or is a rooted item. -/
  within : later.state.Within workshop.state.tables.items workshop.registry.entries

variable {workshop later : Workshop}

/-- The entries after passes make new items, and differ from those before in the records last
written only. -/
theorem Passed.exists_mem (passed : workshop.Passed later)
    (makes : ∀ entry ∈ workshop.registry.entries, entry.isPatch = false)
    {entry : Entry ItemDefinition} (member : entry ∈ later.registry.entries) :
    ∃ other ∈ workshop.registry.entries, other.forget = entry.forget ∧ entry.isPatch = false := by
  obtain ⟨other, otherMember, same⟩ := Registry.exists_mem_of_forget_eq passed.registry member
  obtain ⟨_, _, isPatch⟩ := Entry.of_forget_eq same
  refine ⟨other, otherMember, same, ?_⟩
  rw [← isPatch]
  exact makes other otherMember

/-- A pass over new items keeps what passes keep. -/
theorem Passed.inject (passed : workshop.Passed later)
    (makes : ∀ entry ∈ workshop.registry.entries, entry.isPatch = false) :
    workshop.Passed (later.inject ids) := by
  refine ⟨(inject_registry ids later).trans passed.registry, ?_, ?_, ?_⟩
  all_goals rw [inject_of_ready passed.ready]
  · exact runPass_keeps (fun state : ItemState => state.tables.items.isReady = true)
      (fun _ _ _ _ ok ready => itemStep_isReady ok ready) passed.ready
  · intro id present
    exact runPass_keeps (fun state : ItemState => state.tables.items.contains id = true)
      (fun _ _ _ _ ok there => itemStep_contains ok there) (passed.kept id present)
  · refine runPass_keeps (fun state : ItemState => state.Within _ _) ?_ passed.within
    intro entry member state done ok within
    obtain ⟨other, otherMember, same, new⟩ := passed.exists_mem makes member
    exact within.step otherMember same new ok

variable (ids)

/-- Passes over new items keep what one of them keeps. -/
theorem passed_afterPasses
    (makes : ∀ entry ∈ workshop.registry.entries, entry.isPatch = false)
    (ready : workshop.state.tables.items.isReady = true) (count : Nat) :
    workshop.Passed (workshop.afterPasses ids count) := by
  induction count with
  | zero => exact ⟨rfl, ready, fun _ present => present, fun _ present => .inl present⟩
  | succ count ih =>
    rw [afterPasses_succ]
    exact ih.inject makes

/-- When every new item is present or lacks its base, a pass changes nothing. -/
theorem Passed.idle (passed : workshop.Passed later)
    (makes : ∀ entry ∈ workshop.registry.entries, entry.isPatch = false)
    (done : ∀ entry ∈ workshop.registry.entries, entry.ItemDone later.state.tables.items) :
    let pass := runPass (itemStep ids) later.registry.entries later.state
    pass.state = later.state ∧ pass.report.injected = 0 := by
  have idle : ∀ entry ∈ later.registry.entries, Idle (itemStep ids) later.state entry := by
    intro entry member
    obtain ⟨other, otherMember, same, new⟩ := passed.exists_mem makes member
    obtain ⟨sameId, definition, _⟩ := Entry.of_forget_eq same
    have doneOther := done other otherMember
    rw [Entry.ItemDone, sameId, definition] at doneOther
    exact (idle_iff_itemDone new).2 doneOther
  obtain ⟨unchanged, injected, _⟩ := runPass_of_idle idle
  exact ⟨unchanged, injected⟩

/-- While a new item is absent and its base is not, a pass makes an item that was missing. -/
theorem Passed.missing_lt (passed : workshop.Passed later)
    (makes : ∀ entry ∈ workshop.registry.entries, entry.isPatch = false)
    (undone : ¬ ∀ entry ∈ workshop.registry.entries, entry.ItemDone later.state.tables.items) :
    missing (later.inject ids).state.tables.items workshop.registry.entries <
      missing later.state.tables.items workshop.registry.entries := by
  obtain ⟨entry, member, notDone⟩ : ∃ entry ∈ workshop.registry.entries,
      ¬ entry.ItemDone later.state.tables.items := by simpa using undone
  have absent : later.state.tables.items.contains entry.id = false :=
    Bool.eq_false_iff.2 fun present => notDone (.inl present)
  have base : later.state.tables.items.contains entry.definition.baseItem = true := by
    rw [Table.contains_eq, ← Option.ne_none_iff_isSome]
    exact fun none => notDone (.inr none)
  obtain ⟨other, otherMember, same⟩ :=
    Registry.exists_mem_of_forget_eq passed.registry.symm member
  obtain ⟨sameId, definition, isPatch⟩ := Entry.of_forget_eq same
  rw [inject_of_ready passed.ready]
  refine Modpack.missing_lt (fun id present => ?_) member absent ?_
  · exact runPass_keeps (fun state : ItemState => state.tables.items.contains id = true)
      (fun _ _ _ _ ok there => itemStep_contains ok there) present
  · rw [← sameId]
    rw [← definition] at base
    exact runPass_makes otherMember (isPatch.trans (makes entry member)) base

/-- After some passes either nothing is left to make, or as many items were made. -/
theorem itemsDone_or_missing_le
    (makes : ∀ entry ∈ workshop.registry.entries, entry.isPatch = false)
    (ready : workshop.state.tables.items.isReady = true) (count : Nat) :
    (∀ entry ∈ workshop.registry.entries,
        entry.ItemDone (workshop.afterPasses ids count).state.tables.items) ∨
      missing (workshop.afterPasses ids count).state.tables.items workshop.registry.entries +
        count ≤ workshop.registry.entries.length := by
  induction count with
  | zero => exact .inr List.countP_le_length
  | succ count ih =>
    have passed := passed_afterPasses ids makes ready count
    rw [afterPasses_succ]
    by_cases done : ∀ entry ∈ workshop.registry.entries,
        entry.ItemDone (workshop.afterPasses ids count).state.tables.items
    · have unchanged : ((workshop.afterPasses ids count).inject ids).state =
          (workshop.afterPasses ids count).state := by
        rw [inject_of_ready passed.ready]
        exact (passed.idle ids makes done).1
      rw [unchanged]
      exact .inl done
    · have fewer := passed.missing_lt ids makes done
      have bound := ih.resolve_left done
      right
      omega

/-- After as many passes as there are entries nothing is left to make. -/
theorem itemsDone_of_length_le
    (makes : ∀ entry ∈ workshop.registry.entries, entry.isPatch = false)
    (ready : workshop.state.tables.items.isReady = true) {count : Nat}
    (enough : workshop.registry.entries.length ≤ count) :
    ∀ entry ∈ workshop.registry.entries,
      entry.ItemDone (workshop.afterPasses ids count).state.tables.items := by
  rcases itemsDone_or_missing_le ids makes ready count with done | bound
  · exact done
  · have none : missing (workshop.afterPasses ids count).state.tables.items
        workshop.registry.entries = 0 := by omega
    intro entry member
    have present := List.countP_eq_zero.1 none entry member
    exact .inl (by simpa using present)

/-- A new item that is not reached fails in a pass, since its base is missing. -/
theorem Passed.mem_failures (passed : workshop.Passed later)
    (makes : ∀ entry ∈ workshop.registry.entries, entry.isPatch = false)
    {entry : Entry ItemDefinition} (member : entry ∈ workshop.registry.entries)
    (unreached : ¬ workshop.state.tables.items.Reaches workshop.registry.entries entry.id)
    (unrooted : ¬ entry.Rooted workshop.state.tables.items workshop.registry.entries) :
    ⟨Definition.kind ItemDefinition, entry.key,
        .baseMissing entry.key entry.definition.baseItem⟩ ∈
      (runPass (itemStep ids) later.registry.entries later.state).failures := by
  obtain ⟨next, nextMember, same⟩ :=
    Registry.exists_mem_of_forget_eq passed.registry.symm member
  obtain ⟨sameId, definition, isPatch⟩ := Entry.of_forget_eq same
  have key : next.key = entry.key :=
    show next.forget.key = entry.forget.key from congrArg Entry.key same
  rw [← sameId] at unreached
  rw [← key, ← definition]
  refine mem_failures_of_holds (fun state : ItemState => state.Within _ _) ?_ ?_ nextMember
    passed.within
  · intro other otherMember state done ok within
    obtain ⟨first, firstMember, sameFirst, new⟩ := passed.exists_mem makes otherMember
    exact within.step firstMember sameFirst new ok
  · intro state within
    have new := isPatch.trans (makes entry member)
    have turn := itemStep_turn ids next state
    generalize itemStep ids next state = result at turn ⊢
    cases turn with
    | targetMissing patches | upToDate patches | patched patches =>
      rw [new] at patches
      cases patches
    | present _ present => exact absurd (within _ present) unreached
    | baseMissing => rfl
    | made _ _ base _ found =>
      have reached := within _ (Table.contains_of_get? found)
      exact absurd ((Entry.rooted_of_reached reached).of_definition_eq definition) unrooted

end Workshop

/-- A registry without patches that is passed over a table which is ready. After as many passes as
it has entries, a further pass makes nothing and writes nothing, and the table has what it had and
the items from which following bases leads there. Every other entry whose id was not in the table
fails in every pass. -/
theorem passes_reach_rooted (ids : IdRanges) (base : Nat) (offers : List (Offer ItemDefinition))
    (workshop : Workshop)
    (built : workshop.registry.forget = ((Registry.empty base).offerAll offers).forget)
    (makes : ∀ entry ∈ workshop.registry.entries, entry.isPatch = false)
    (ready : workshop.state.tables.items.isReady = true) (count : Nat) :
    let items := workshop.state.tables.items
    let entries := workshop.registry.entries
    let later := workshop.afterPasses ids count
    ∃ pass, injectItems ids later.registry later.state = .ok pass ∧
      (∀ entry ∈ entries, items.contains entry.id = false → ¬ entry.Rooted items entries →
        ⟨Definition.kind ItemDefinition, entry.key,
          .baseMissing entry.key entry.definition.baseItem⟩ ∈ pass.failures) ∧
      (entries.length ≤ count →
        pass.report.injected = 0 ∧ pass.state = later.state ∧
        ∀ id, later.state.tables.items.contains id = true ↔
          items.contains id = true ∨
            ∃ entry ∈ entries, entry.Rooted items entries ∧ entry.id = id) := by
  intro items entries later
  have passed := Workshop.passed_afterPasses ids makes ready count
  refine ⟨runPass (itemStep ids) later.registry.entries later.state, ?_, ?_, ?_⟩
  · rw [injectItems, if_pos passed.ready]
  · intro entry member absent unrooted
    refine passed.mem_failures ids makes member ?_ unrooted
    rintro (present | ⟨other, otherMember, rooted, same⟩)
    · rw [absent] at present
      cases present
    · have indexed := (Registry.tallied_offerAll base offers).indexed
      have sameEntry : other.forget = entry.forget :=
        indexed.forget_eq_of_id_eq built otherMember member (makes other otherMember)
          (makes entry member) same
      exact unrooted (rooted.of_definition_eq (Entry.of_forget_eq sameEntry).2.1)
  · intro enough
    have done := Workshop.itemsDone_of_length_le ids makes ready enough
    obtain ⟨unchanged, injected⟩ := passed.idle ids makes done
    refine ⟨injected, unchanged, fun id => ⟨passed.within id, ?_⟩⟩
    rintro (present | ⟨entry, member, rooted, rfl⟩)
    · exact passed.kept id present
    · exact rooted.present passed.kept done member

/-- Items of one package: one made from the next, that one from a template, two made from each
other, and one made from a record that nobody has. -/
def ladderOffers : List (Offer ItemDefinition) :=
  [{ id := "stool", baseItem := 60001 }, { id := "ladder" }, { id := "egg", baseItem := 60003 },
    { id := "hen", baseItem := 60002 }, { id := "cloud", baseItem := 77 }].map fun item =>
      { package := .inMemory "ladder", definition := item }

/-- A workshop with these items and the templates. -/
def ladder : Workshop :=
  ⟨(Registry.empty 60000).offerAll ladderOffers, ⟨Host.seeded.tables, .empty⟩⟩

/-- After five passes the first two of these items are there, nothing more is made, and the items
made from each other still fail. -/
theorem ladder_is_climbed :
    (∀ entry ∈ ladder.registry.entries, entry.isPatch = false) ∧
    ladder.state.tables.items.isReady = true ∧ ladder.registry.entries.length = 5 ∧
    ∃ pass, injectItems {} (ladder.afterPasses {} 5).registry (ladder.afterPasses {} 5).state =
        .ok pass ∧
      ⟨"item", "ladder:egg", .baseMissing "ladder:egg" 60003⟩ ∈ pass.failures ∧
      pass.report.injected = 0 ∧ pass.state = (ladder.afterPasses {} 5).state ∧
      (ladder.afterPasses {} 5).state.tables.items.contains 60000 = true := by
  have makes : ∀ entry ∈ ladder.registry.entries, entry.isPatch = false := by decide
  obtain ⟨pass, runs, fails, settled⟩ :=
    passes_reach_rooted {} 60000 ladderOffers ladder rfl makes (by decide) 5
  obtain ⟨injected, unchanged, reached⟩ := settled (by decide)
  -- No base of a rooted item is one of the items made from each other.
  have outside : ∀ entry : Entry ItemDefinition,
      entry.Rooted ladder.state.tables.items ladder.registry.entries →
        entry.definition.baseItem ∉ [60002, 60003] := by
    intro entry rooted
    induction rooted with
    | held present =>
      have among := IdMap.mem_ids_of_contains present
      have apart : ∀ id ∈ Host.seeded.tables.items.ids, id ∉ [60002, 60003] := by decide
      exact apart _ among
    | through member _ same _ ih =>
      have apart : ∀ next ∈ ladder.registry.entries,
          next.definition.baseItem ∉ [60002, 60003] → next.id ∉ [60002, 60003] := by decide
      rw [← same]
      exact apart _ member ih
  refine ⟨makes, by decide, by decide, pass, runs, ?_, injected, unchanged, ?_⟩
  · exact fails ladder.registry.entries[2] (List.getElem_mem _) (by decide)
      fun rooted => outside _ rooted (by decide)
  · refine (reached 60000).2 (.inr ⟨ladder.registry.entries[0], List.getElem_mem _, ?_, by decide⟩)
    exact .through (List.getElem_mem (n := 1) (by decide)) (by decide) (by decide)
      (.held (by decide))

end Modpack
