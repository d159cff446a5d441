import Modpack.Proofs.Passes
import Modpack.Proofs.Patches

/-!
# What one step of the item pass can do

`ItemTurn` lists everything a step can come to, with what was true before; what the pass keeps is
proved from it, one case for each constructor. A step writes at most one item record. It writes
the record of its own number when that is absent, or the record its patch targets. A step that
fails has written nothing.
-/
namespace Modpack

/-- Everything a step of the item pass can come to. -/
inductive ItemTurn (ids : IdRanges) (entry : Entry ItemDefinition) (state : ItemState) :
    Except (Halt ItemState) (Step ItemState) → Prop
  /-- The record to patch is missing. -/
  | targetMissing (patches : entry.isPatch = true)
      (missing : state.tables.items.get? entry.definition.targetItemId = none) :
      ItemTurn ids entry state
        (.error ⟨.targetMissing entry.key entry.definition.targetItemId, state⟩)
  /-- The record to patch shows all that the patch asks for. -/
  | upToDate (patches : entry.isPatch = true) (record : ItemRecord)
      (found : state.tables.items.get? entry.definition.targetItemId = some record)
      (current : (entry.definition.patchValues state.tables.items).filter record.lacks = []) :
      ItemTurn ids entry state (.ok ⟨.skipped, entry.definition.targetItemId, state⟩)
  /-- The record is patched. -/
  | patched (patches : entry.isPatch = true) (record written : ItemRecord)
      (found : state.tables.items.get? entry.definition.targetItemId = some record)
      (outdated : (entry.definition.patchValues state.tables.items).filter record.lacks ≠ [])
      (accepted : record.setAll
        ((entry.definition.patchValues state.tables.items).filter record.lacks) = .ok written) :
      ItemTurn ids entry state (.ok ⟨.patched, entry.definition.targetItemId,
        ⟨state.tables.putItem state.tables.lists state.tables.strings
          entry.definition.targetItemId written, state.marks⟩⟩)
  /-- The new item is there already. -/
  | present (makes : entry.isPatch = false)
      (present : state.tables.items.contains entry.id = true) :
      ItemTurn ids entry state (.ok ⟨.skipped, entry.id, state⟩)
  /-- The record to start from is missing. -/
  | baseMissing (makes : entry.isPatch = false)
      (absent : state.tables.items.contains entry.id = false)
      (missing : state.tables.items.get? entry.definition.baseItem = none) :
      ItemTurn ids entry state (.error ⟨.baseMissing entry.key entry.definition.baseItem, state⟩)
  /-- The new item is made. -/
  | made (makes : entry.isPatch = false)
      (absent : state.tables.items.contains entry.id = false) (base record : ItemRecord)
      (found : state.tables.items.get? entry.definition.baseItem = some base)
      (accepted : base.setAll (newWrites ids state.tables.items entry base.variant) = .ok record) :
      ItemTurn ids entry state
        (.ok ⟨(planAround ids state.tables.items entry base.variant record).outcome, entry.id,
          (planAround ids state.tables.items entry base.variant record).carryOut state⟩)

/-- A step comes to one of the listed turns. -/
theorem itemStep_turn (ids : IdRanges) (entry : Entry ItemDefinition) (state : ItemState) :
    ItemTurn ids entry state (itemStep ids entry state) := by
  rw [itemStep]
  by_cases patches : entry.isPatch = true
  · rw [if_pos patches]
    cases found : state.tables.items.get? entry.definition.targetItemId with
    | none =>
      simp only [patchStep, found]
      exact .targetMissing patches found
    | some record =>
      simp only [patchStep, ItemDefinition.patchWrites?, found, Option.map_some]
      by_cases current :
          (entry.definition.patchValues state.tables.items).filter record.lacks = []
      · rw [current]
        exact .upToDate patches record found current
      · have writes : ((entry.definition.patchValues state.tables.items).filter
            record.lacks).isEmpty = false := by
          rw [List.isEmpty_eq_false_iff]
          exact current
        have own : ∀ write ∈ (entry.definition.patchValues state.tables.items).filter record.lacks,
            write.2.typeName = write.1.valueType := by
          intro write member
          exact entry.definition.patchValues_own_types state.tables.items write
            (List.mem_filter.1 member).1
        obtain ⟨written, accepted⟩ := ItemRecord.setAll_own_types record own
        rw [writes, ItemRecord.setEach_of_setAll accepted]
        exact .patched patches record written found current accepted
  · have makes : entry.isPatch = false := Bool.eq_false_iff.2 patches
    rw [if_neg patches]
    by_cases present : state.tables.items.contains entry.id = true
    · rw [if_pos present]
      exact .present makes present
    · have absent : state.tables.items.contains entry.id = false := Bool.eq_false_iff.2 present
      rw [if_neg present, makeItem_eq]
      cases found : state.tables.items.get? entry.definition.baseItem with
      | none =>
        rw [planItem_of_missing found]
        exact .baseMissing makes absent found
      | some base =>
        obtain ⟨record, accepted, planned⟩ := planItem_of_base ids found
        rw [planned]
        exact .made makes absent base record found accepted

instance atomic_itemStep (ids : IdRanges) : Atomic (itemStep ids) where
  untouched {entry state halt} failed := by
    have turn := itemStep_turn ids entry state
    rw [failed] at turn
    cases turn <;> rfl

/-- A step that did not fail comes to one of the listed turns. -/
theorem itemTurn_of_ok {ids : IdRanges} {entry : Entry ItemDefinition} {state : ItemState}
    {done : Step ItemState} (ok : itemStep ids entry state = .ok done) :
    ItemTurn ids entry state (.ok done) := by
  rw [← ok]
  exact itemStep_turn ids entry state

/-- A step does not look at the record last written for its entry. -/
theorem itemStep_forget (ids : IdRanges) (entry : Entry ItemDefinition) (state : ItemState) :
    itemStep ids entry.forget state = itemStep ids entry state := rfl

section Kept

variable {ids : IdRanges} {entry : Entry ItemDefinition} {state : ItemState}
  {done : Step ItemState}

/-- A step that skips its entry changes nothing. -/
theorem itemStep_skipped (ok : itemStep ids entry state = .ok done)
    (skipped : done.outcome = .skipped) : done.state = state := by
  cases itemTurn_of_ok ok with
  | upToDate | present => rfl
  | patched => cases skipped
  | made makes absent base record found accepted =>
    simp only [ItemPlan.outcome] at skipped
    split at skipped <;> cases skipped

/-- A step that does not skip its entry writes to the item table. -/
theorem itemStep_writes (ok : itemStep ids entry state = .ok done) :
    (done.outcome = .skipped ∧ done.state = state) ∨
      state.tables.items.writes < done.state.tables.items.writes := by
  cases itemTurn_of_ok ok with
  | upToDate | present => exact .inl ⟨rfl, rfl⟩
  | patched | made => exact .inr (Nat.lt_succ_self _)

/-- A step never takes a record out of the item table. -/
theorem itemStep_contains (ok : itemStep ids entry state = .ok done) {id : Nat}
    (present : state.tables.items.contains id = true) :
    done.state.tables.items.contains id = true := by
  cases itemTurn_of_ok ok with
  | upToDate | present => exact present
  | patched | made => exact Table.contains_set_of_contains present _ _

/-- A step keeps the item table ready. -/
theorem itemStep_isReady (ok : itemStep ids entry state = .ok done)
    (ready : state.tables.items.isReady = true) : done.state.tables.items.isReady = true := by
  cases itemTurn_of_ok ok with
  | upToDate | present => exact ready
  | patched | made => exact Table.isReady_set _ _ _

/-- After its step a new item is in the table. -/
theorem itemStep_present (ok : itemStep ids entry state = .ok done)
    (makes : entry.isPatch = false) : done.state.tables.items.contains entry.id = true := by
  cases itemTurn_of_ok ok with
  | upToDate patches | patched patches =>
    rw [makes] at patches
    cases patches
  | present _ present => exact present
  | made =>
    refine (Table.contains_set _ _ _ _).trans ?_
    rw [show (planAround ids state.tables.items entry _ _).id = entry.id from rfl, beq_self_eq_true,
      Bool.true_or]

/-- A step leaves the recipe table alone. -/
theorem itemStep_recipes (ok : itemStep ids entry state = .ok done) :
    done.state.tables.recipes = state.tables.recipes := by
  cases itemTurn_of_ok ok <;> rfl

/-- What a step keeps of grounded tables: they stay grounded. -/
theorem itemStep_grounded (ok : itemStep ids entry state = .ok done)
    (grounded : state.tables.Grounded) : done.state.tables.Grounded := by
  cases itemTurn_of_ok ok with
  | upToDate | present => exact grounded
  | patched patches record written found outdated accepted =>
    exact grounded.putItem (.refl _) _ _ (grounded.made_of_setAll found accepted)
  | made makes absent base record found accepted =>
    rw [ItemPlan.carryOut_eq]
    refine grounded.putItem
      (ItemPlan.extendedBy_finished (ItemPlan.pushesApart_planAround ids _ entry _ record)) _ _
      (ItemPlan.made_finished ?_)
    exact grounded.made_of_setAll found accepted

end Kept

/-! ## Missing icons -/

/-- Everything trying to copy an icon can come to. The copy is never refused. -/
inductive RetryTurn (id : Nat) (state : ItemState) : Bool × ItemState → Prop
  /-- The item waits for no icon, or a record or the icon is missing. -/
  | nothing : RetryTurn id state (false, state)
  /-- The icon is copied. -/
  | copied (reference : Nat) (record written : ItemRecord) (icon : FieldValue)
      (pending : state.marks.pendingIcons.get? id = some reference)
      (found : state.tables.items.get? id = some record)
      (shown : iconOf? state.tables.items reference = some icon)
      (accepted : record.set .icon icon = .ok written) :
      RetryTurn id state (true,
        ⟨state.tables.putItem state.tables.lists state.tables.strings id written,
          { state.marks with pendingIcons := state.marks.pendingIcons.erase id }⟩)

/-- Trying to copy an icon comes to one of the listed turns. -/
theorem retryIcon_turn (id : Nat) (state : ItemState) :
    RetryTurn id state (retryIcon id state) := by
  rw [retryIcon]
  cases pending : state.marks.pendingIcons.get? id with
  | none => exact .nothing
  | some reference =>
    cases found : state.tables.items.get? id with
    | none => exact .nothing
    | some record =>
      cases shown : iconOf? state.tables.items reference with
      | none =>
        simp only [shown]
        exact .nothing
      | some icon =>
        obtain ⟨path, rfl⟩ := iconOf?_isAsset shown
        simp only [shown]
        exact .copied reference record _ _ pending found shown rfl

/-- Trying to copy icons one after another keeps every property that each try keeps. -/
theorem retryEach_keeps (property : ItemState → Prop)
    (kept : ∀ id state, property state → property (retryIcon id state).2) (ids : List Nat)
    {state : ItemState} (initially : property state) : property (retryEach ids state).2 := by
  induction ids generalizing state with
  | nil => exact initially
  | cons id rest ih => exact ih (kept id state initially)

end Modpack
