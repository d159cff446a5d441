import Modpack.Proofs.Settled

/-!
# Injecting again

After an injection in which nothing failed, every new record is in its table and the target of
every patch is there. Whether a second injection finds nothing to do then depends on the patches
alone: it does exactly when patches of one target agree on the values they both override, and the
targets show the icons that their patches borrow. Patches that do not agree undo each other in
every pass.
-/
namespace Modpack

/-- Patches of one target agree on every field that both override. -/
def PatchesAgree (registry : Registry ItemDefinition) : Prop :=
  ∀ first ∈ registry.entries, ∀ second ∈ registry.entries,
    first.isPatch = true → second.isPatch = true →
    first.definition.targetItemId = second.definition.targetItemId →
    ∀ left ∈ first.definition.overrides, ∀ right ∈ second.definition.overrides,
      left.1 = right.1 → left.2.same right.2 = true

/-- The targets of patches show the icons that the patches borrow. -/
def IconsSettled (registry : Registry ItemDefinition) (items : Table ItemRecord) : Prop :=
  ∀ entry ∈ registry.entries, entry.isPatch = true →
    ∀ icon, entry.definition.borrowedIcon? items = some icon →
      iconOf? items entry.definition.targetItemId = some icon

/-- The target of a patch is there and shows what the patch overrides. -/
def Entry.Shown (entry : Entry ItemDefinition) (items : Table ItemRecord) : Prop :=
  ∃ record, items.get? entry.definition.targetItemId = some record ∧
    ∀ write ∈ entry.definition.overrides, record.lacks write = false

/-! ## What a patch leaves -/

section Step

variable {ids : IdRanges} {entry other : Entry ItemDefinition} {state : ItemState}
  {done : Step ItemState}

/-- After its step the target of a patch shows what the patch overrides. -/
theorem itemStep_shown (ok : itemStep ids entry state = .ok done)
    (patches : entry.isPatch = true) : entry.Shown done.state.tables.items := by
  cases itemTurn_of_ok ok with
  | present makes | made makes =>
    rw [patches] at makes
    cases makes
  | upToDate _ record found current =>
    refine ⟨record, found, fun write member => ?_⟩
    exact Bool.eq_false_iff.2 (List.filter_eq_nil_iff.1 current write
      (ItemDefinition.mem_patchValues.2 (.inl member)))
  | patched _ record written found outdated accepted =>
    refine ⟨written, ?_, fun write member => ?_⟩
    · exact (Table.get?_set _ _ _ _).trans (if_pos rfl)
    · exact ItemDefinition.lacks_eq_false_of_patched accepted write
        (ItemDefinition.mem_patchValues.2 (.inl member))

/-- A step does not undo a patch it agrees with. -/
theorem itemStep_keeps_shown (ok : itemStep ids entry state = .ok done)
    (agree : entry.isPatch = true →
      entry.definition.targetItemId = other.definition.targetItemId →
      ∀ left ∈ entry.definition.overrides, ∀ right ∈ other.definition.overrides,
        left.1 = right.1 → left.2.same right.2 = true)
    (shown : other.Shown state.tables.items) : other.Shown done.state.tables.items := by
  obtain ⟨held, heldFound, shows⟩ := shown
  cases itemTurn_of_ok ok with
  | upToDate | present => exact ⟨held, heldFound, shows⟩
  | made makes absent base record found accepted =>
    -- A new record does not replace one that is there.
    refine ⟨held, (Table.get?_set _ _ _ _).trans ((if_neg ?_).trans heldFound), shows⟩
    exact Table.ne_of_get?_of_absent heldFound absent
  | patched patches record written found outdated accepted =>
    by_cases same : entry.definition.targetItemId = other.definition.targetItemId
    · refine ⟨written, (Table.get?_set _ _ _ _).trans (if_pos same), fun write member => ?_⟩
      rw [same] at found
      obtain rfl : record = held := Option.some.inj (found.symm.trans heldFound)
      by_cases overwritten : write.1 ∈
          ((entry.definition.patchValues state.tables.items).filter record.lacks).map Prod.fst
      · obtain ⟨value, inFilter, sameField⟩ := List.mem_map.1 overwritten
        have now := ItemDefinition.get?_of_patched accepted inFilter
        have notIcon := (other.definition.overrides_own_types write member).2
        have overridden : value ∈ entry.definition.overrides := by
          rcases ItemDefinition.mem_patchValues.1 (List.mem_filter.1 inFilter).1 with
            overridden | ⟨icon, _, rfl⟩
          · exact overridden
          · exact absurd sameField.symm notIcon
        have equal := agree patches same value overridden write member sameField
        rw [sameField] at now
        exact ItemRecord.lacks_eq_false_iff.2 ⟨value.2, now, equal⟩
      · have kept := (ItemRecord.setAll_frame accepted).2.2 write.1 overwritten
        obtain ⟨value, inField, equal⟩ := ItemRecord.lacks_eq_false_iff.1 (shows write member)
        exact ItemRecord.lacks_eq_false_iff.2 ⟨value, kept.trans inField, equal⟩
    · exact ⟨held, (Table.get?_set _ _ _ _).trans ((if_neg same).trans heldFound), shows⟩

end Step

/-! ## After a pass in which nothing failed -/

section Clean

variable {engine : Engine} {tables : Tables}

/-- After an item pass in which nothing failed every new item is in the table. -/
theorem Engine.itemPass_present (clean : (engine.itemPass tables).report.failed = 0) :
    ∀ entry ∈ engine.items.entries, entry.isPatch = false →
      (engine.itemPass tables).state.tables.items.contains entry.id = true := by
  refine runPass_holds (fun entry (state : ItemState) => entry.isPatch = false →
    state.tables.items.contains entry.id = true) ?_ ?_ clean
  · intro entry _ state done ok makes
    exact itemStep_present ok makes
  · intro entry _ other _ state done ok there makes
    exact itemStep_contains ok (there makes)

/-- After an item pass in which nothing failed the target of every patch is in the table. -/
theorem Engine.itemPass_target (clean : (engine.itemPass tables).report.failed = 0) :
    ∀ entry ∈ engine.items.entries, entry.isPatch = true →
      (engine.itemPass tables).state.tables.items.contains entry.definition.targetItemId =
        true := by
  refine runPass_holds (fun entry (state : ItemState) => entry.isPatch = true →
    state.tables.items.contains entry.definition.targetItemId = true) ?_ ?_ clean
  · intro entry _ state done ok patches
    obtain ⟨record, found, _⟩ := itemStep_shown ok patches
    exact Table.contains_of_get? found
  · intro entry _ other _ state done ok there patches
    exact itemStep_contains ok (there patches)

/-- After an item pass in which nothing failed, with patches that agree, every target shows what
its patches override. -/
theorem Engine.itemPass_shown (agree : PatchesAgree engine.items)
    (clean : (engine.itemPass tables).report.failed = 0) :
    ∀ entry ∈ engine.items.entries, entry.isPatch = true →
      entry.Shown (engine.itemPass tables).state.tables.items := by
  refine runPass_holds (fun entry (state : ItemState) => entry.isPatch = true →
    entry.Shown state.tables.items) ?_ ?_ clean
  · intro entry _ state done ok patches
    exact itemStep_shown ok patches
  · intro entry member other otherMember state done ok shown patches
    refine itemStep_keeps_shown ok ?_ (shown patches)
    intro entryPatches sameTarget
    exact agree entry member other otherMember entryPatches patches sameTarget

/-- Patches that are all current, with their targets in the table, agree. -/
theorem patchesAgree_of_current {registry : Registry ItemDefinition} {items : Table ItemRecord}
    (there : ∀ entry ∈ registry.entries, entry.isPatch = true →
      items.contains entry.definition.targetItemId = true)
    (current : ∀ entry ∈ registry.entries, entry.isPatch = true → entry.Current items) :
    PatchesAgree registry := by
  intro first firstMember second secondMember patches patches' sameTarget left inLeft right inRight
    sameField
  obtain ⟨record, found⟩ := Option.isSome_iff_exists.1 (there first firstMember patches)
  have one := current first firstMember patches record found left
    (ItemDefinition.mem_patchValues.2 (.inl inLeft))
  rw [sameTarget] at found
  have two := current second secondMember patches' record found right
    (ItemDefinition.mem_patchValues.2 (.inl inRight))
  -- Both values are the same as the one held in the field.
  obtain ⟨held, inField, sameLeft⟩ := ItemRecord.lacks_eq_false_iff.1 one
  obtain ⟨held', inField', sameRight⟩ := ItemRecord.lacks_eq_false_iff.1 two
  rw [sameField] at inField
  obtain rfl : held = held' := Option.some.inj (inField.symm.trans inField')
  exact FieldValue.same_trans (FieldValue.same_symm sameLeft) sameRight

/-- Patches that are all current, with their targets in the table, have their icons settled. -/
theorem iconsSettled_of_current {registry : Registry ItemDefinition} {items : Table ItemRecord}
    (there : ∀ entry ∈ registry.entries, entry.isPatch = true →
      items.contains entry.definition.targetItemId = true)
    (current : ∀ entry ∈ registry.entries, entry.isPatch = true → entry.Current items) :
    IconsSettled registry items := by
  intro entry member patches icon borrowed
  obtain ⟨record, found⟩ := Option.isSome_iff_exists.1 (there entry member patches)
  have shown := current entry member patches record found (.icon, icon)
    (ItemDefinition.mem_patchValues.2 (.inr ⟨icon, borrowed, rfl⟩))
  obtain ⟨path, rfl⟩ : ∃ path, icon = .asset path := by
    rw [ItemDefinition.borrowedIcon?] at borrowed
    split at borrowed
    · exact iconOf?_isAsset borrowed
    · cases borrowed
  obtain ⟨held, inField, same⟩ := ItemRecord.lacks_eq_false_iff.1 shown
  rw [FieldValue.eq_of_same_asset same] at inField
  have target : items.get? entry.definition.targetItemId = some record := found
  rw [iconOf?, target, Option.bind_some]
  exact inField

/-- After an item pass in which nothing failed, all patches are current exactly when they agree
and the icons they borrow are settled. -/
theorem Engine.itemPass_current_iff (clean : (engine.itemPass tables).report.failed = 0) :
    (∀ entry ∈ engine.items.entries, entry.isPatch = true →
        entry.Current (engine.itemPass tables).state.tables.items) ↔
      PatchesAgree engine.items ∧
        IconsSettled engine.items (engine.itemPass tables).state.tables.items := by
  have there := itemPass_target clean
  constructor
  · intro current
    exact ⟨patchesAgree_of_current there current, iconsSettled_of_current there current⟩
  · rintro ⟨agree, settled⟩ entry member patches record found write inValues
    rcases ItemDefinition.mem_patchValues.1 inValues with overridden | ⟨icon, borrowed, rfl⟩
    · obtain ⟨shown, shownFound, shows⟩ := itemPass_shown agree clean entry member patches
      obtain rfl : record = shown := Option.some.inj (found.symm.trans shownFound)
      exact shows write overridden
    · have shown := settled entry member patches icon borrowed
      rw [iconOf?, found, Option.bind_some] at shown
      exact ItemRecord.lacks_eq_false_iff.2
        ⟨icon, shown, ItemDefinition.same_self_of_mem_patchValues inValues⟩

/-- After a recipe pass in which nothing failed every recipe is in the table. -/
theorem Engine.recipePass_present (clean : (engine.recipePass tables).report.failed = 0) :
    ∀ entry ∈ engine.recipes.entries,
      (engine.recipePass tables).state.recipes.contains entry.id = true := by
  refine runPass_holds (fun entry (tables : Tables) =>
    tables.recipes.contains entry.id = true) ?_ ?_ clean
  · intro entry _ tables done ok
    exact recipeStep_present ok
  · intro entry _ other _ tables done ok there
    exact recipeStep_contains ok there

/-- What an injection in which nothing failed leaves is settled exactly when patches agree and
their icons are settled, which is when the engine finds nothing amiss. -/
theorem Engine.fullInjection_settled_iff
    (clean : (engine.fullInjection tables).report.failed = 0) :
    (engine.Settled (engine.fullInjection tables).tables ↔ PatchesAgree engine.items ∧
        IconsSettled engine.items (engine.fullInjection tables).tables.items) ∧
      (engine.needsInjection (engine.fullInjection tables).tables = false ↔
        engine.Settled (engine.fullInjection tables).tables) := by
  rw [fullInjection] at clean
  simp only [Report.merge, Nat.add_eq_zero_iff] at clean
  obtain ⟨cleanItems, cleanRecipes⟩ := clean
  have sameItems : (engine.fullInjection tables).tables.items =
      (engine.itemPass tables).state.tables.items :=
    recipePass_items (engine.afterItems tables) (engine.itemPass tables).state.tables
  have current := itemPass_current_iff cleanItems
  have present := itemPass_present cleanItems
  have recipes : ∀ entry ∈ engine.recipes.entries,
      (engine.fullInjection tables).tables.recipes.contains entry.id = true :=
    recipePass_present cleanRecipes
  rw [← sameItems] at current present
  have settled : engine.Settled (engine.fullInjection tables).tables ↔
      ∀ entry ∈ engine.items.entries, entry.isPatch = true →
        entry.Current (engine.fullInjection tables).tables.items := by
    constructor
    · exact fun all => all.patches
    · intro patches
      exact ⟨patches, fun entry member makes => .inl (present entry member makes),
        fun entry member => .inl (recipes entry member)⟩
  refine ⟨settled.trans current, ?_⟩
  rw [needsInjection_eq_false_iff, settled]
  constructor
  · exact fun all => all.2.2
  · refine fun patches => ⟨?_, ?_, patches⟩
    · intro id first
      obtain ⟨entry, member, makes, rfl⟩ := Registry.exists_of_firstAllocated? first
      exact present entry member makes
    · intro id first
      obtain ⟨entry, member, _, rfl⟩ := Registry.exists_of_firstAllocated? first
      exact recipes entry member

/-- An injection keeps both tables ready. -/
theorem Engine.fullInjection_ready (engine : Engine) {tables : Tables}
    (itemsReady : tables.items.isReady = true)
    (recipesReady : tables.recipes.isReady = true) :
    (engine.fullInjection tables).tables.items.isReady = true ∧
      (engine.fullInjection tables).tables.recipes.isReady = true := by
  constructor
  · rw [show (engine.fullInjection tables).tables.items =
        (engine.itemPass tables).state.tables.items from
      recipePass_items (engine.afterItems tables) (engine.itemPass tables).state.tables]
    exact runPass_keeps (fun state : ItemState => state.tables.items.isReady = true)
      (fun entry _ state done ok ready => itemStep_isReady ok ready) itemsReady
  · refine runPass_keeps (fun tables : Tables => tables.recipes.isReady = true)
      (fun entry _ tables done ok ready => recipeStep_isReady ok ready) ?_
    rw [itemPass_recipes]
    exact recipesReady

end Clean

/-- After an injection that ran both passes without a failure, the engine finds nothing amiss, and
both passes run once more write nothing at all, exactly when the patches of one target agree and
the icons they borrow are settled. -/
theorem inject_again_iff (engine : Engine) (tables : Tables)
    (itemsReady : tables.items.isReady = true) (recipesReady : tables.recipes.isReady = true)
    (runs : ¬(engine.injected = true ∧ engine.needsInjection tables = false))
    (clean : (engine.injectContent tables).report.failed = 0) :
    let after := engine.injectContent tables
    let settled := PatchesAgree engine.items ∧ IconsSettled engine.items after.tables.items
    (after.engine.needsInjection after.tables = false ↔ settled) ∧
      ∃ items recipes, after.engine.injectItems after.tables = .ok items ∧
        items.engine.injectRecipes items.tables = .ok recipes ∧
        (recipes.tables = after.tables ↔ settled) := by
  intro after settled
  have same : after.engine.SameContent engine := Engine.sameContent_injectContent engine tables
  have full : engine.injectContent tables = engine.fullInjection tables :=
    Engine.injectContent_of_ready runs itemsReady recipesReady
  rw [full] at clean
  have afterTables : after.tables = (engine.fullInjection tables).tables :=
    congrArg Engine.Injection.tables full
  obtain ⟨condition, probe⟩ := Engine.fullInjection_settled_iff clean
  rw [← afterTables] at condition probe
  obtain ⟨itemsReady', recipesReady'⟩ :=
    Engine.fullInjection_ready engine itemsReady recipesReady
  rw [← afterTables] at itemsReady' recipesReady'
  obtain ⟨items, recipes, first, second, tablesEq, _⟩ :=
    Engine.passes_of_ready after.engine itemsReady' recipesReady'
  refine ⟨?_, items, recipes, first, second, ?_⟩
  · rw [Engine.needsInjection_of_sameContent same]
    exact probe.trans condition
  · rw [tablesEq]
    refine Iff.trans ⟨fun unchanged => ?_, fun all => ?_⟩ condition
    · exact (Engine.settled_of_unchanged unchanged).of_sameContent same.symm
    · exact (all.of_sameContent same).idle.1

/-- A package whose patches agree: they set the price of different templates. -/
def truce : Package :=
  { info := .inMemory "truce"
    items := [{ id := "cheap", isModify := true, targetItemId := 1, price := 3 },
      { id := "dear", isModify := true, targetItemId := 2, price := 5 }, { id := "jam" }] }

/-- The engine with that package. -/
def truceEngine : Engine := ((Engine.empty {}).registerPackage truce).engine

/-- Injecting that package again is idle exactly when its patches agree and are settled. -/
theorem inject_truce_again_iff :
    Host.seeded.tables.items.isReady = true ∧ Host.seeded.tables.recipes.isReady = true ∧
      ¬(truceEngine.injected = true ∧
        truceEngine.needsInjection Host.seeded.tables = false) ∧
      (truceEngine.injectContent Host.seeded.tables).report.failed = 0 ∧
      let after := truceEngine.injectContent Host.seeded.tables
      let settled := PatchesAgree truceEngine.items ∧
        IconsSettled truceEngine.items after.tables.items
      (after.engine.needsInjection after.tables = false ↔ settled) ∧
        ∃ items recipes, after.engine.injectItems after.tables = .ok items ∧
          items.engine.injectRecipes items.tables = .ok recipes ∧
          (recipes.tables = after.tables ↔ settled) :=
  ⟨by decide, by decide, by decide, by decide,
    inject_again_iff truceEngine Host.seeded.tables (by decide) (by decide) (by decide)
      (by decide)⟩

/-- A package whose patches set two prices for one template. -/
def quarrel : Package :=
  { info := .inMemory "quarrel"
    items := [{ id := "cheap", isModify := true, targetItemId := 1, price := 3 },
      { id := "dear", isModify := true, targetItemId := 1, price := 5 }] }

/-- The engine with that package. -/
def quarrelEngine : Engine := ((Engine.empty {}).registerPackage quarrel).engine

/-- Patches that do not agree never settle: nothing fails, and yet every pass patches twice. -/
theorem quarrel_never_settles :
    let first := quarrelEngine.injectContent Host.seeded.tables
    let second := first.engine.injectContent first.tables
    first.report = { patched := 2 } ∧ first.engine.needsInjection first.tables = true ∧
      second.report = { patched := 2 } ∧
      second.tables.items.writes = first.tables.items.writes + 2 := by
  decide

end Modpack
