import Modpack.Proofs.IconRetries
import Modpack.Proofs.IndependentPasses
import Modpack.Proofs.ItemLabels

/-!
# New items that start from the host's

The plan of a new item looks at two records, its base and the item it borrows an icon from. Where
both belong to the host the plan is the same whatever other new items were made before, and what the
record shows in the end does not depend on the item's number, its labels apart. So the items of a
pass do not meet, and its outcome can be told from the tables it began with.
-/
namespace Modpack

/-! ## Apart from labels -/

namespace ItemRecord

/-- The record without its labels. -/
def unlabelled (record : ItemRecord) : ItemRecord :=
  { record with id := 0, titleKey := 0, descriptionKey := 0 }

/-- Writing a field that is no label commutes with taking the labels out. -/
theorem set_unlabelled (record : ItemRecord) {field : ItemField} (noLabel : field ∉ labels)
    (value : FieldValue) :
    record.unlabelled.set field value = (record.set field value).map unlabelled := by
  cases field <;> cases value <;> first | rfl | exact absurd (by decide) noLabel

/-- Writing fields that are no labels commutes with taking the labels out. -/
theorem setAll_unlabelled (record : ItemRecord) {writes : ItemWrites}
    (noLabels : ∀ write ∈ writes, write.1 ∉ labels) :
    record.unlabelled.setAll writes = (record.setAll writes).map unlabelled := by
  induction writes generalizing record with
  | nil => rfl
  | cons write rest ih =>
    rw [setAll_cons, setAll_cons, set_unlabelled record (noLabels write List.mem_cons_self)]
    cases record.set write.1 write.2 with
    | error cause => rfl
    | ok written =>
      exact ih written fun other member => noLabels other (List.mem_cons_of_mem write member)

/-- But for its labels, the record of a new item is what the other writes make of the base. -/
theorem unlabelled_of_newWrites {ids : IdRanges} {items : Table ItemRecord}
    {entry : Entry ItemDefinition} {base record : ItemRecord}
    (accepted : base.setAll (newWrites ids items entry base.variant) = .ok record) :
    base.unlabelled.setAll (otherWrites items entry base.variant) = .ok record.unlabelled := by
  let started : ItemRecord :=
    { base with
      id := entry.id
      titleKey := FieldValue.narrow (ids.titleKey entry.id)
      descriptionKey := FieldValue.narrow (ids.titleKey entry.id + 1) }
  have written : started.setAll (otherWrites items entry base.variant) = .ok record := accepted
  have same : base.unlabelled = started.unlabelled := rfl
  rw [same, started.setAll_unlabelled (otherWrites_not_labels items entry base.variant), written]
  rfl

end ItemRecord

/-- What a record shows apart from its labels. -/
def ItemView.unlabelled (view : ItemView) : ItemView :=
  ⟨view.plain.unlabelled, view.contents⟩

/-- What a record shows apart from its labels is what it shows without them. -/
theorem ItemRecord.view_unlabelled (record : ItemRecord) (store : ListStore) :
    (record.view store).unlabelled = record.unlabelled.view store := by
  have contents : (fun list => store.read (record.handle list)) =
      fun list => store.read (record.unlabelled.handle list) := by
    funext list
    cases list <;> rfl
  rw [ItemView.unlabelled, view, view, contents]
  rfl

/-! ## What a plan looks at -/

/-- A plan looks at two records only, the base and the item that an icon is borrowed from. -/
theorem planItem_congr {items other : Table ItemRecord} {entry : Entry ItemDefinition}
    (base : items.get? entry.definition.baseItem = other.get? entry.definition.baseItem)
    (lender : items.get? entry.definition.referenceItemId =
      other.get? entry.definition.referenceItemId) (ids : IdRanges) :
    planItem ids items entry = planItem ids other entry := by
  have icon : iconSource items entry = iconSource other entry := by
    simp only [iconSource, iconOf?, lender]
  simp only [planItem, newWrites, planAround, base, icon]

/-- What is shown of a new item. -/
structure ItemShown where
  /-- What its record shows. -/
  view : Option ItemView
  /-- The item whose icon it waits for. -/
  awaited : Option Nat

/-- What is shown of a new item, the labels of its record apart. -/
def ItemShown.unlabelled (shown : ItemShown) : ItemShown :=
  { shown with view := shown.view.map ItemView.unlabelled }

/-- What is shown of an item in a state. -/
def ItemState.shown (state : ItemState) (id : Nat) : ItemShown :=
  ⟨state.tables.itemView.get? id, state.awaits? id⟩

/-- What carrying out a plan is expected to come to, told from the lists there were before. -/
def ItemPlan.comesTo (plan : ItemPlan) (lists : ListStore) : Outcome × ItemShown :=
  (plan.outcome, ⟨some (plan.shown (plan.record.view lists)), plan.awaits⟩)

/-- A state in which new items may have been made since a pass began. -/
structure ItemState.Since (ids : IdRanges) (before : Tables) (state : ItemState) : Prop where
  /-- The host's own items are as they were. -/
  items : ∀ id < ids.itemBase, state.tables.items.get? id = before.items.get? id
  /-- So are all lists that were made. -/
  lists : before.lists.ExtendedBy state.tables.lists
  /-- Every handle is of a list that was made. -/
  grounded : state.tables.Grounded

/-- What is expected of new items, told from the tables before the pass. -/
def itemProspect (ids : IdRanges) (before : Tables) :
    Prospect ItemState ItemDefinition ItemShown where
  fits := ItemState.Since ids before
  shows := ItemState.shown
  nothing := ⟨none, none⟩
  plan entry := (planItem ids before.items entry).map fun plan => plan.comesTo before.lists

/-- A definition of a new item that starts from the host's items. -/
structure ItemDefinition.OnHost (ids : IdRanges) (item : ItemDefinition) : Prop where
  /-- It is no patch. -/
  makes : item.patchTarget? = none
  /-- Its base is the host's. -/
  base : item.baseItem < ids.itemBase
  /-- So is the item it borrows an icon from. -/
  lender : item.referenceItemId < ids.itemBase

instance ItemDefinition.decidableOnHost (ids : IdRanges) (item : ItemDefinition) :
    Decidable (item.OnHost ids) :=
  decidable_of_iff (item.patchTarget? = none ∧ item.baseItem < ids.itemBase ∧
      item.referenceItemId < ids.itemBase)
    ⟨fun ⟨makes, base, lender⟩ => ⟨makes, base, lender⟩,
      fun onHost => ⟨onHost.makes, onHost.base, onHost.lender⟩⟩

section Pass

variable {ids : IdRanges} {before : Tables} {entry : Entry ItemDefinition}

/-- What is expected of an entry is what its plan comes to. -/
theorem itemProspect_plan (ids : IdRanges) (before : Tables) (entry : Entry ItemDefinition) :
    (itemProspect ids before).plan entry =
      (planItem ids before.items entry).map fun plan => plan.comesTo before.lists := rfl

/-- An entry of such a definition makes a record. -/
theorem ItemDefinition.OnHost.isPatch (onHost : entry.definition.OnHost ids) :
    entry.isPatch = false := by
  have target : Definition.patchTarget? entry.definition = none := onHost.makes
  rw [Entry.isPatch, target]
  rfl

/-- An item of which nothing is shown is absent. -/
theorem ItemState.contains_of_shown {state : ItemState} {id : Nat}
    (free : state.shown id = ⟨none, none⟩) : state.tables.items.contains id = false := by
  rw [← Tables.contains_itemView, ← IdMap.get?_eq_none_iff]
  exact congrArg ItemShown.view free

/-- Nothing is shown of an item that is absent, while no item waits. -/
theorem ItemState.shown_of_absent {tables : Tables} {id : Nat}
    (absent : tables.items.contains id = false) :
    ItemState.shown ⟨tables, .empty⟩ id = ⟨none, none⟩ := by
  rw [← Tables.contains_itemView, ← IdMap.get?_eq_none_iff] at absent
  rw [shown, absent]
  rfl

/-- The step of a new item comes to what is planned from the tables before the pass, and where it
fails it leaves the state as it was. -/
theorem itemStep_of_since (onHost : entry.definition.OnHost ids) {state : ItemState}
    (since : state.Since ids before) (absent : state.tables.items.contains entry.id = false) :
    itemStep ids entry state =
      (leaving state (planItem ids before.items entry)).map fun plan =>
        ⟨plan.outcome, entry.id, plan.carryOut state⟩ := by
  have plan := planItem_congr (since.items _ onHost.base) (since.items _ onHost.lender) ids
  rw [itemStep, if_neg (Bool.eq_false_iff.1 onHost.isPatch), if_neg (Bool.eq_false_iff.1 absent),
    makeItem_eq, plan]

/-- Carrying out the plan of a new item shows what is expected under its number only. -/
theorem ItemPlan.shown_carryOut {plan : ItemPlan} (apart : plan.PushesApart) {state : ItemState}
    (since : state.Since ids before) (made : ∀ list, before.lists.Made (plan.record.handle list))
    (free : state.shown plan.id = ⟨none, none⟩) (id : Nat) :
    (plan.carryOut state).shown id =
      if plan.id = id then (plan.comesTo before.lists).2
      else state.shown id := by
  have madeNow (list : ItemList) : state.tables.lists.Made (plan.record.handle list) :=
    (since.lists _ (made list)).1
  have view : (plan.carryOut state).tables.itemView.get? id =
      if plan.id = id then some (plan.shown (plan.record.view before.lists))
      else state.tables.itemView.get? id := by
    rw [carryOut_eq, since.grounded.itemView_putItem (extendedBy_finished apart),
      IdMap.get?_insert, view_finished apart madeNow,
      ItemRecord.view_of_extendedBy since.lists made]
  have waits : (plan.carryOut state).awaits? id =
      if plan.id = id then plan.awaits else state.awaits? id := by
    have nothing : state.awaits? plan.id = none := congrArg ItemShown.awaited free
    rw [ItemState.awaits?_carryOut]
    by_cases same : plan.id = id
    · rw [if_pos same, ← same, nothing]
      cases plan.awaits with
      | none => rfl
      | some reference => exact if_pos rfl
    · rw [if_neg same]
      cases plan.awaits with
      | none => rfl
      | some reference => exact if_neg same
  rw [ItemState.shown, view, waits]
  by_cases same : plan.id = id
  · rw [if_pos same, if_pos same, if_pos same]
    rfl
  · rw [if_neg same, if_neg same, if_neg same]
    rfl

/-- What is expected of a new item that starts from the host's is what its step comes to. -/
theorem itemProspect_holds (grounded : before.Grounded) (onHost : entry.definition.OnHost ids)
    (own : ids.itemBase ≤ entry.id) :
    (itemProspect ids before).Holds (itemStep ids) entry := by
  cases found : before.items.get? entry.definition.baseItem with
  | none =>
    have missing : planItem ids before.items entry = _ := planItem_of_missing found
    constructor
    · intro state cause since free expected
      rw [itemStep_of_since onHost since (ItemState.contains_of_shown free), missing]
      rw [itemProspect_plan, missing] at expected
      obtain rfl := Except.error.inj expected
      rfl
    · intro state outcome shown since free expected
      rw [itemProspect_plan, missing] at expected
      cases expected
  | some base =>
    obtain ⟨record, accepted, planned⟩ := planItem_of_base ids found
    let plan := planAround ids before.items entry base.variant record
    have apart : plan.PushesApart := ItemPlan.pushesApart_planAround _ _ _ _ _
    constructor
    · intro state cause since free expected
      rw [itemProspect_plan, planned] at expected
      cases expected
    · intro state outcome shown since free expected
      have step := itemStep_of_since onHost since (ItemState.contains_of_shown free)
      rw [planned] at step
      rw [itemProspect_plan, planned] at expected
      obtain ⟨rfl, rfl⟩ := Prod.mk.inj (Except.ok.inj expected)
      refine ⟨_, step, rfl, ⟨fun id below => ?_, ?_, itemStep_grounded step since.grounded⟩, ?_⟩
      · rw [← since.items id below]
        refine (Table.get?_set _ entry.id id _).trans (if_neg ?_)
        omega
      · exact since.lists.trans (ItemPlan.extendedBy_finished apart)
      · exact ItemPlan.shown_carryOut apart since (grounded.made_of_setAll found accepted) free

/-! ## Numbers -/

/-- What is expected of a new item does not depend on its number, the labels of its record apart. -/
theorem itemProspect_alike {twin : Entry ItemDefinition}
    (same : entry.unnumbered = twin.unnumbered) :
    ((itemProspect ids before).plan entry).map (Prod.map id ItemShown.unlabelled) =
      ((itemProspect ids before).plan twin).map (Prod.map id ItemShown.unlabelled) := by
  obtain ⟨key, number, package, item, written⟩ := entry
  obtain ⟨_, number', _, _, written'⟩ := twin
  obtain ⟨rfl, rfl, rfl⟩ := Entry.of_unnumbered_eq same
  cases found : before.items.get? item.baseItem with
  | none =>
    rw [itemProspect_plan, itemProspect_plan, planItem_of_missing found,
      planItem_of_missing found]
  | some base =>
    let entry : Entry ItemDefinition := ⟨key, number, package, item, written⟩
    let twin : Entry ItemDefinition := ⟨key, number', package, item, written'⟩
    have found' : before.items.get? twin.definition.baseItem = some base := found
    have found : before.items.get? entry.definition.baseItem = some base := found
    obtain ⟨record, accepted, planned⟩ := planItem_of_base ids found
    obtain ⟨record', accepted', planned'⟩ := planItem_of_base ids found'
    have left := ItemRecord.unlabelled_of_newWrites accepted
    have right := ItemRecord.unlabelled_of_newWrites accepted'
    have records : record.unlabelled = record'.unlabelled := Except.ok.inj (left.symm.trans right)
    have views : (record.view before.lists).unlabelled =
        (record'.view before.lists).unlabelled := by
      rw [ItemRecord.view_unlabelled, records, ItemRecord.view_unlabelled]
    -- Besides the record nothing in the plan depends on the number.
    let plan := planAround ids before.items entry base.variant record
    let comesTo (view : ItemView) : Outcome × ItemShown :=
      (plan.outcome, ⟨some (plan.shown view), plan.awaits⟩)
    rw [itemProspect_plan, itemProspect_plan, planned, planned']
    exact congrArg (fun view => Except.ok (comesTo view)) views

/-- The outcome that is expected of a new item does not depend on its number. -/
theorem itemProspect_outcome (ids : IdRanges) (before : Tables) (entry : Entry ItemDefinition) :
    (itemProspect ids before).outcome entry =
      (itemProspect ids before).outcome entry.unnumbered := by
  have same : entry.unnumbered = entry.unnumbered.unnumbered := rfl
  exact (Prospect.alike (itemProspect_alike same) rfl).1

end Pass

end Modpack
