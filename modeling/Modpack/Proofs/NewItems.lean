import Modpack.Injection.Items
import Modpack.Proofs.Views

/-!
# How a new item is made

Making an item goes from one write to the next, and each could be refused. It comes to the same as
planning the whole item first, which only reads, and carrying the plan out, which cannot fail: what
is written always fits the fields, so a plan succeeds exactly when the base is in the table.
Carrying a plan out puts one record into the table. What the record shows is what the plan wrote
over the base, with lists of its own where the plan asks for them; whatever is pushed goes into a
list of its own, so the lists of the base keep their content.
-/
namespace Modpack

/-! ## Planning -/

/-- The icon of a record, as a value. -/
theorem iconOf?_eq_map (items : Table ItemRecord) (id : Nat) :
    iconOf? items id = ((items.get? id).bind ItemRecord.icon).map FieldValue.asset :=
  Option.map_bind.symm

/-- The icon of a record is a picture. -/
theorem iconOf?_isAsset {items : Table ItemRecord} {id : Nat} {icon : FieldValue}
    (found : iconOf? items id = some icon) : ∃ path, icon = .asset path := by
  rw [iconOf?_eq_map] at found
  obtain ⟨path, _, same⟩ := Option.map_eq_some_iff.1 found
  exact ⟨path, same.symm⟩

/-- Everything a new item writes over its base. -/
def newWrites (ids : IdRanges) (items : Table ItemRecord) (entry : Entry ItemDefinition)
    (variant : ItemVariant) : ItemWrites :=
  entry.definition.commonWrites entry.id (ids.titleKey entry.id)
    ++ entry.definition.stockWrites variant ++ (iconSource items entry).writes
    ++ entry.definition.kindWrites variant

/-- A new item, ready to be put into the host. -/
structure ItemPlan where
  /-- Its id. -/
  id : Nat
  /-- Its record, sharing the lists of its base. -/
  record : ItemRecord
  /-- The lists it needs for itself. -/
  ownLists : List ItemList
  /-- What is put into its list of parameter changes. -/
  bonuses : List ListEntry
  /-- Whether it is marked as a bag. -/
  isBag : Bool
  /-- The item whose icon it waits for. -/
  awaits : Option Nat
  /-- The string key of its title. -/
  titleKey : Nat
  /-- Its title. -/
  title : String
  /-- The string key of its description. -/
  descriptionKey : Nat
  /-- Its description. -/
  description : String

/-- The plan of a new item, given its record. -/
def planAround (ids : IdRanges) (items : Table ItemRecord) (entry : Entry ItemDefinition)
    (variant : ItemVariant) (record : ItemRecord) : ItemPlan :=
  { id := entry.id
    record
    ownLists := entry.definition.ownLists variant
    bonuses := entry.definition.bonusEntries variant
    isBag := entry.definition.makesBag variant
    awaits := match iconSource items entry with
      | .awaited reference => some reference
      | _ => none
    titleKey := ids.titleKey entry.id
    title := entry.resolve entry.definition.name
    descriptionKey := ids.descriptionKey entry.id
    description := entry.resolve entry.definition.description }

/-- Plan a new item. It fails when the record to start from is missing. -/
def planItem (ids : IdRanges) (items : Table ItemRecord) (entry : Entry ItemDefinition) :
    Except InjectError ItemPlan :=
  match items.get? entry.definition.baseItem with
  | none => .error (.baseMissing entry.key entry.definition.baseItem)
  | some base =>
    match base.setAll (newWrites ids items entry base.variant) with
    | .error error => .error (.host error)
    | .ok record => .ok (planAround ids items entry base.variant record)

/-- Put a planned item into the host. -/
def ItemPlan.carryOut (plan : ItemPlan) (state : ItemState) : ItemState :=
  let tables := state.tables
  let (record, lists) := detachAll plan.record tables.lists plan.ownLists
  let lists := plan.bonuses.foldl (fun lists entry => lists.push record.parameterChanges entry)
    lists
  let strings := (tables.strings.set plan.titleKey plan.title).set plan.descriptionKey
    plan.description
  let marks := if plan.isBag then (state.marks.addBag plan.id).2 else state.marks
  { tables := { tables with lists, strings, items := tables.items.set plan.id record }
    marks := match plan.awaits with
      | some reference =>
        { marks with pendingIcons := marks.pendingIcons.insert plan.id reference }
      | none => marks }

/-- What becomes of a planned item. -/
def ItemPlan.outcome (plan : ItemPlan) : Outcome :=
  if plan.awaits.isSome then .deferred else .injected

/-- The icon a new item writes is a picture. -/
theorem iconSource_writes_own_types (items : Table ItemRecord) (entry : Entry ItemDefinition) :
    ∀ write ∈ (iconSource items entry).writes, write.2.typeName = write.1.valueType := by
  intro write member
  cases source : iconSource items entry with
  | base => simp [source, IconSource.writes] at member
  | awaited item => simp [source, IconSource.writes] at member
  | given icon =>
    rw [source, IconSource.writes, List.mem_singleton] at member
    have asset : ∃ path, icon = .asset path := by
      simp only [iconSource] at source
      split at source
      · split at source
        · rename_i found
          cases source
          exact iconOf?_isAsset found
        · cases source
      · split at source
        · cases source
        · cases source
          exact ⟨_, rfl⟩
    obtain ⟨path, rfl⟩ := asset
    rw [member]
    rfl

/-- Every value a new item writes is of the type of its field. -/
theorem newWrites_own_types (ids : IdRanges) (items : Table ItemRecord)
    (entry : Entry ItemDefinition) (variant : ItemVariant) :
    ∀ write ∈ newWrites ids items entry variant, write.2.typeName = write.1.valueType := by
  have common : ∀ write ∈ entry.definition.commonWrites entry.id (ids.titleKey entry.id),
      write.2.typeName = write.1.valueType := by
    simp [ItemDefinition.commonWrites, FieldValue.typeName, ItemField.valueType]
  have stock : ∀ write ∈ entry.definition.stockWrites variant,
      write.2.typeName = write.1.valueType := by
    cases variant <;> simp [ItemDefinition.stockWrites, FieldValue.typeName, ItemField.valueType]
  have kind : ∀ write ∈ entry.definition.kindWrites variant,
      write.2.typeName = write.1.valueType := by
    unfold ItemDefinition.kindWrites
    split
    · simp [FieldValue.typeName, ItemField.valueType]
    · simp [FieldValue.typeName, ItemField.valueType]
    · split <;> simp [FieldValue.typeName, ItemField.valueType]
    · simp
  intro write member
  rw [newWrites, List.mem_append, List.mem_append, List.mem_append] at member
  rcases member with ((inCommon | inStock) | inIcon) | inKind
  · exact common write inCommon
  · exact stock write inStock
  · exact iconSource_writes_own_types items entry write inIcon
  · exact kind write inKind

/-- Without its base an item cannot be planned. -/
theorem planItem_of_missing {ids : IdRanges} {items : Table ItemRecord}
    {entry : Entry ItemDefinition} (missing : items.get? entry.definition.baseItem = none) :
    planItem ids items entry = .error (.baseMissing entry.key entry.definition.baseItem) := by
  rw [planItem, missing]

/-- With its base an item can be planned. -/
theorem planItem_of_base (ids : IdRanges) {items : Table ItemRecord}
    {entry : Entry ItemDefinition} {base : ItemRecord}
    (found : items.get? entry.definition.baseItem = some base) :
    ∃ record, base.setAll (newWrites ids items entry base.variant) = .ok record ∧
      planItem ids items entry = .ok (planAround ids items entry base.variant record) := by
  obtain ⟨record, accepted⟩ := ItemRecord.setAll_own_types base
    (newWrites_own_types ids items entry base.variant)
  refine ⟨record, accepted, ?_⟩
  rw [planItem, found]
  simp only [accepted]

/-- Making an item is planning it and carrying the plan out, and where it fails nothing changed. -/
theorem makeItem_eq (ids : IdRanges) (entry : Entry ItemDefinition) (state : ItemState) :
    makeItem ids entry state =
      (leaving state (planItem ids state.tables.items entry)).map fun plan =>
        ⟨plan.outcome, entry.id, plan.carryOut state⟩ := by
  cases found : state.tables.items.get? entry.definition.baseItem with
  | none =>
    rw [makeItem, planItem_of_missing found, found]
    rfl
  | some base =>
    obtain ⟨record, accepted, planned⟩ := planItem_of_base ids found
    -- All writes together are accepted, so each of the four turns is.
    rw [newWrites, ItemRecord.setAll_append] at accepted
    obtain ⟨borrowed, earlier, kind⟩ := Except.exists_of_bind_eq_ok accepted
    rw [ItemRecord.setAll_append] at earlier
    obtain ⟨stocked, earliest, icon⟩ := Except.exists_of_bind_eq_ok earlier
    rw [ItemRecord.setAll_append] at earliest
    obtain ⟨plain, common, stock⟩ := Except.exists_of_bind_eq_ok earliest
    rw [makeItem, planned, found]
    simp only [ItemDefinition.writeKind, ItemRecord.write_of_accepted common,
      ItemRecord.write_of_accepted stock, ItemRecord.write_of_accepted icon,
      ItemRecord.write_of_accepted kind, leaving_ok, Except.map, Bind.bind, Except.bind,
      ItemPlan.outcome, ItemPlan.carryOut, planAround]
    cases iconSource state.tables.items entry <;> rfl

/-! ## Lists of its own -/

/-- What came of replacing nested lists of a record by fresh ones. -/
structure Detached (record : ItemRecord) (store : ListStore) (lists : List ItemList)
    (made : ItemRecord × ListStore) : Prop where
  /-- The lists made before are as they were. -/
  extended : store.ExtendedBy made.2
  /-- The plain part is as it was. -/
  plain : made.1.plain = record.plain
  /-- The replaced lists are new and empty. -/
  own : ∀ list ∈ lists, ¬ store.Made (made.1.handle list) ∧ made.2.Made (made.1.handle list) ∧
    made.2.read (made.1.handle list) = []
  /-- The other lists are still shared. -/
  shared : ∀ list, list ∉ lists → made.1.handle list = record.handle list

/-- Replaced lists are new and empty, and everything else is as it was. -/
theorem detachAll_detached (record : ItemRecord) (store : ListStore) (lists : List ItemList) :
    Detached record store lists (detachAll record store lists) := by
  induction lists generalizing record store with
  | nil =>
    refine ⟨.refl store, rfl, ?_, fun _ _ => rfl⟩
    intro list member
    cases member
  | cons first rest ih =>
    have later := ih (record.setHandle first store.next) (store.fresh [])
    have extendedFresh := ListStore.extendedBy_fresh store []
    refine ⟨extendedFresh.trans later.extended, ?_, ?_, ?_⟩
    · exact later.plain.trans (ItemRecord.plain_setHandle record first store.next)
    · intro list member
      by_cases inRest : list ∈ rest
      · obtain ⟨new, made, empty⟩ := later.own list inRest
        exact ⟨fun old => new (extendedFresh _ old).1, made, empty⟩
      · -- Only the first list is left, and the later ones do not touch it again.
        obtain rfl : list = first := by
          rcases List.mem_cons.1 member with same | inRest'
          · exact same
          · exact absurd inRest' inRest
        have kept := later.shared list inRest
        rw [ItemRecord.handle_setHandle, if_pos rfl] at kept
        obtain ⟨made, content⟩ := later.extended _ (ListStore.made_fresh_next store [])
        change (detachAll record store (list :: rest)).1.handle list = store.next at kept
        rw [kept]
        refine ⟨ListStore.not_made_next store, made, content.trans ?_⟩
        exact ListStore.read_fresh_next store []
    · intro list absent
      rw [List.mem_cons, not_or] at absent
      refine (later.shared list absent.2).trans ?_
      rw [ItemRecord.handle_setHandle, if_neg absent.1]

/-- Replaced lists read empty, and the others as before. -/
theorem Detached.read {record : ItemRecord} {store : ListStore} {lists : List ItemList}
    {made : ItemRecord × ListStore} (detached : Detached record store lists made)
    {list : ItemList} (old : store.Made (record.handle list)) :
    made.2.read (made.1.handle list) =
      if list ∈ lists then [] else store.read (record.handle list) := by
  by_cases own : list ∈ lists
  · rw [if_pos own]
    exact (detached.own list own).2.2
  · rw [if_neg own, detached.shared list own]
    exact (detached.extended _ old).2

/-! ## Carrying a plan out -/

namespace ItemPlan

/-- Whatever the plan pushes goes into a list of its own. -/
def PushesApart (plan : ItemPlan) : Prop :=
  plan.bonuses = [] ∨ plan.ownLists = [.parameterChanges]

/-- The record that carrying the plan out puts into the table, and the lists with it. -/
def finished (plan : ItemPlan) (store : ListStore) : ItemRecord × ListStore :=
  let made := detachAll plan.record store plan.ownLists
  (made.1, made.2.pushAll made.1.parameterChanges plan.bonuses)

/-- The fields of the finished record are those of the planned one. -/
theorem get?_finished (plan : ItemPlan) (store : ListStore) (field : ItemField) :
    (plan.finished store).1.get? field = plan.record.get? field := by
  have detached := detachAll_detached plan.record store plan.ownLists
  rw [← ItemRecord.get?_plain plan.record, ← detached.plain, ItemRecord.get?_plain]
  rfl

/-- The strings after the plan was carried out. -/
def strings (plan : ItemPlan) (texts : StringTable) : StringTable :=
  (texts.set plan.titleKey plan.title).set plan.descriptionKey plan.description

/-- The marks after the plan was carried out. -/
def marksAfter (plan : ItemPlan) (marks : Marks) : Marks :=
  let marks := if plan.isBag then (marks.addBag plan.id).2 else marks
  match plan.awaits with
  | some reference => { marks with pendingIcons := marks.pendingIcons.insert plan.id reference }
  | none => marks

/-- After a plan was carried out its own number may await an icon, and the others do as before. -/
theorem pendingIcons_marksAfter (plan : ItemPlan) (marks : Marks) :
    (plan.marksAfter marks).pendingIcons = match plan.awaits with
      | some reference => marks.pendingIcons.insert plan.id reference
      | none => marks.pendingIcons := by
  have bags : (if plan.isBag then (marks.addBag plan.id).2 else marks).pendingIcons =
      marks.pendingIcons := by
    by_cases bag : plan.isBag = true
    · rw [if_pos bag]
      rfl
    · rw [if_neg bag]
  rw [marksAfter]
  cases plan.awaits with
  | none => exact bags
  | some reference => exact congrArg (·.insert plan.id reference) bags

/-- After a plan was carried out its own number may await an icon, and no other that did not. -/
theorem awaited_of_marksAfter {plan : ItemPlan} {marks : Marks} {id reference : Nat}
    (awaits : (plan.marksAfter marks).pendingIcons.get? id = some reference) :
    id = plan.id ∨ marks.pendingIcons.get? id = some reference := by
  rw [pendingIcons_marksAfter] at awaits
  cases source : plan.awaits with
  | none =>
    rw [source] at awaits
    exact .inr awaits
  | some wanted =>
    simp only [source, IdMap.get?_insert] at awaits
    by_cases same : plan.id = id
    · exact .inl same.symm
    · rw [if_neg same] at awaits
      exact .inr awaits

/-- What the record of a plan shows once the plan was carried out. -/
def shown (plan : ItemPlan) (base : ItemView) : ItemView :=
  ⟨base.plain, fun list =>
    if list ∈ plan.ownLists then (if list = .parameterChanges then plan.bonuses else [])
    else base.contents list⟩

/-- Carrying a plan out puts one item into the tables and updates the marks. -/
theorem carryOut_eq (plan : ItemPlan) (state : ItemState) :
    plan.carryOut state =
      ⟨state.tables.putItem (plan.finished state.tables.lists).2
        (plan.strings state.tables.strings) plan.id (plan.finished state.tables.lists).1,
        plan.marksAfter state.marks⟩ := rfl

/-- What a plan of a known base pushes goes into a list of its own. -/
theorem pushesApart_planAround (ids : IdRanges) (items : Table ItemRecord)
    (entry : Entry ItemDefinition) (variant : ItemVariant) (record : ItemRecord) :
    (planAround ids items entry variant record).PushesApart := by
  unfold PushesApart planAround ItemDefinition.bonusEntries ItemDefinition.ownLists
  cases entry.definition.kind <;> cases variant <;> first | exact .inl rfl | exact .inr rfl

section Finished

variable {plan : ItemPlan} {store : ListStore}

/-- Carrying a plan out leaves every list made before as it was. -/
theorem extendedBy_finished (apart : plan.PushesApart) :
    store.ExtendedBy (plan.finished store).2 := by
  have detached := detachAll_detached plan.record store plan.ownLists
  rcases apart with nothing | own
  · rw [finished, nothing]
    exact detached.extended
  · refine detached.extended.pushAll ?_ plan.bonuses
    exact (detached.own .parameterChanges (by rw [own]; exact List.mem_singleton_self _)).1

/-- Every list of the finished record was made. -/
theorem made_finished (made : ∀ list, store.Made (plan.record.handle list)) (list : ItemList) :
    (plan.finished store).2.Made ((plan.finished store).1.handle list) := by
  have detached := detachAll_detached plan.record store plan.ownLists
  rw [finished, ListStore.made_pushAll]
  by_cases own : list ∈ plan.ownLists
  · exact (detached.own list own).2.1
  · rw [detached.shared list own]
    exact (detached.extended _ (made list)).1

/-- What the finished record shows depends only on what the plan and its record show. -/
theorem view_finished (apart : plan.PushesApart)
    (made : ∀ list, store.Made (plan.record.handle list)) :
    (plan.finished store).1.view (plan.finished store).2 =
      plan.shown (plan.record.view store) := by
  have detached := detachAll_detached plan.record store plan.ownLists
  have contents : (fun list => (plan.finished store).2.read
        ((plan.finished store).1.handle list)) =
      (plan.shown (plan.record.view store)).contents := by
    funext list
    have before := detached.read (made list)
    rcases apart with nothing | single
    · simp only [shown, nothing, ite_self]
      rw [finished, nothing]
      exact before
    · by_cases target : list = .parameterChanges
      · have own : list ∈ plan.ownLists := by
          rw [single, target]
          exact List.mem_singleton_self _
        obtain ⟨_, madeNow, empty⟩ := detached.own list own
        simp only [shown, if_pos own, if_pos target]
        rw [target] at madeNow empty ⊢
        refine (ListStore.read_pushAll_self madeNow plan.bonuses).trans ?_
        rw [empty, List.nil_append]
      · have shared : list ∉ plan.ownLists := by
          rw [single, List.mem_singleton]
          exact target
        have different : (detachAll plan.record store plan.ownLists).1.handle .parameterChanges ≠
            (detachAll plan.record store plan.ownLists).1.handle list := by
          intro same
          have new := (detached.own .parameterChanges
            (by rw [single]; exact List.mem_singleton_self _)).1
          rw [same, detached.shared list shared] at new
          exact new (made list)
        simp only [shown, if_neg shared]
        rw [if_neg shared] at before
        exact (ListStore.read_pushAll_other different _ plan.bonuses).trans before
  rw [ItemRecord.view, contents]
  exact congrArg (fun plain => ItemView.mk plain _) detached.plain

end Finished

end ItemPlan

end Modpack
