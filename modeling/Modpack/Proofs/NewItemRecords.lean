import Modpack.Proofs.ItemSteps
import Modpack.Proofs.Templates

/-!
# The record of a new item

A new item that is not in the table, and whose base is, always gets its record, and the record is
told field by field from the definition and the base: `recordOver` for the plain fields,
`contentsOver` for the nested lists. Only a kind that agrees with the shape of the base says
something about the fields of that kind, and only traders' goods say how they are stocked. Lists
that the item has for itself are new; the others are still the base's own, and every list that was
there before keeps its content.
-/
namespace Modpack

/-! ## What the record should be -/

/-- The icon of a new item: that of the item it borrows from, if this is there and has one; the file
in the package's folder, if it borrows none and names one; that of its base otherwise. -/
def Entry.iconOver (entry : Entry ItemDefinition) (items : Table ItemRecord) (base : ItemRecord) :
    Option String :=
  let item := entry.definition
  if 0 < item.referenceItemId then
    ((items.get? item.referenceItemId).bind ItemRecord.icon).or base.icon
  else if item.icon = "" then base.icon
  else some (entry.package.path item.icon)

/-- The plain fields of a new item's record; whatever is not named is as in the base. -/
def Entry.recordOver (entry : Entry ItemDefinition) (ids : IdRanges) (items : Table ItemRecord)
    (base : ItemRecord) : ItemRecord :=
  let item := entry.definition
  let variant := base.variant
  { base with
    id := entry.id
    titleKey := FieldValue.narrow (ids.titleKey entry.id)
    descriptionKey := FieldValue.narrow (ids.titleKey entry.id + 1)
    price := item.price
    weight := item.weight
    rareColor := item.rareColor
    sellable := item.sellable
    notForFire := item.notForFire
    soundType := item.soundType
    fireRate := item.firerate
    stockable := if variant = .consumable ∨ variant = .scrap then item.isStockable
      else base.stockable
    stockCount := if variant = .consumable ∨ variant = .scrap then item.actualStockCount
      else base.stockCount
    icon := entry.iconOver items base
    category := if item.kind = .gear ∧ variant = .gear then item.gearCategory.name
      else base.category
    warmResistance := if item.kind = .gear ∧ variant = .gear then item.warmResistance
      else base.warmResistance
    wetResistance := if item.kind = .gear ∧ variant = .gear then item.wetResistance
      else base.wetResistance
    durabilityResistance := if item.kind = .gear ∧ variant = .gear then item.durabilityResistance
      else base.durabilityResistance
    attack := if item.kind = .weapon ∧ variant = .weapon then item.attack else base.attack
    defense := if item.kind = .weapon ∧ variant = .weapon then item.defense else base.defense
    criticalChance := if item.kind = .weapon ∧ variant = .weapon then item.criticalChance
      else base.criticalChance
    maxDurability := if item.kind = .weapon ∧ variant = .weapon then item.maxDurability
      else base.maxDurability
    actualDurability := if item.kind = .weapon ∧ variant = .weapon then item.maxDurability
      else base.actualDurability
    capacity := if item.kind = .bag ∧ variant = .bag ∧ item.bagCapacity > 0.0 then item.bagCapacity
      else base.capacity }

namespace ItemDefinition

/-- The bonuses whose parameter the host knows, under the host's words and in order. -/
def knownBonuses (item : ItemDefinition) : List ListEntry :=
  item.stats.filterMap fun bonus =>
    (Effect.parameter? bonus.stat).map fun stat => .parameter stat bonus.value

/-- An item over a base of a shape has a list for itself: a consumable all three, a piece of gear
that for parameters. -/
def OwnsList (item : ItemDefinition) (variant : ItemVariant) (list : ItemList) : Prop :=
  (item.kind = .consumable ∧ variant = .consumable) ∨
    (item.kind = .gear ∧ variant = .gear ∧ list = .parameterChanges)

/-- The content of a list of a new item whose base has the given one. -/
def contentsOver (item : ItemDefinition) (variant : ItemVariant) (list : ItemList)
    (content : List ListEntry) : List ListEntry :=
  if item.kind = .consumable ∧ variant = .consumable then []
  else if item.kind = .gear ∧ variant = .gear ∧ list = .parameterChanges then item.knownBonuses
  else content

end ItemDefinition

/-! ## What is written -/

namespace ItemRecord

variable (record : ItemRecord) (item : ItemDefinition)

/-- What every new item writes. -/
theorem setAll_commonWrites (id titleKey : Nat) :
    record.setAll (item.commonWrites id titleKey) = .ok
      { record with
        id := id
        titleKey := FieldValue.narrow titleKey
        descriptionKey := FieldValue.narrow (titleKey + 1)
        price := item.price
        weight := item.weight
        rareColor := item.rareColor
        sellable := item.sellable
        notForFire := item.notForFire
        soundType := item.soundType
        fireRate := item.firerate } := rfl

/-- What is written about stocks: something for consumables and scrap only. -/
theorem setAll_stockWrites (variant : ItemVariant) :
    record.setAll (item.stockWrites variant) = .ok
      { record with
        stockable := if variant = .consumable ∨ variant = .scrap then item.isStockable
          else record.stockable
        stockCount := if variant = .consumable ∨ variant = .scrap then item.actualStockCount
          else record.stockCount } := by
  cases variant <;> rfl

/-- What is written about the kind: something only where the kind and the shape agree. -/
theorem setAll_kindWrites (variant : ItemVariant) :
    record.setAll (item.kindWrites variant) = .ok
      { record with
        category := if item.kind = .gear ∧ variant = .gear then item.gearCategory.name
          else record.category
        warmResistance := if item.kind = .gear ∧ variant = .gear then item.warmResistance
          else record.warmResistance
        wetResistance := if item.kind = .gear ∧ variant = .gear then item.wetResistance
          else record.wetResistance
        durabilityResistance := if item.kind = .gear ∧ variant = .gear
          then item.durabilityResistance else record.durabilityResistance
        attack := if item.kind = .weapon ∧ variant = .weapon then item.attack else record.attack
        defense := if item.kind = .weapon ∧ variant = .weapon then item.defense else record.defense
        criticalChance := if item.kind = .weapon ∧ variant = .weapon then item.criticalChance
          else record.criticalChance
        maxDurability := if item.kind = .weapon ∧ variant = .weapon then item.maxDurability
          else record.maxDurability
        actualDurability := if item.kind = .weapon ∧ variant = .weapon then item.maxDurability
          else record.actualDurability
        capacity := if item.kind = .bag ∧ variant = .bag ∧ item.bagCapacity > 0.0
          then item.bagCapacity else record.capacity } := by
  unfold ItemDefinition.kindWrites
  cases item.kind <;> cases variant <;> try rfl
  -- Only a bag over a bag looks at a value: a capacity that is not positive is not written.
  by_cases holds : item.bagCapacity > 0.0 <;> simp [holds, setAll, set, FieldValue.toFloat] <;> rfl

end ItemRecord

/-- What is written about the icon. -/
theorem ItemRecord.setAll_iconWrites (record : ItemRecord) (items : Table ItemRecord)
    (entry : Entry ItemDefinition) :
    record.setAll (iconSource items entry).writes =
      .ok { record with icon := entry.iconOver items record } := by
  unfold iconSource Entry.iconOver
  by_cases borrows : 0 < entry.definition.referenceItemId
  · simp only [if_pos borrows, iconOf?_eq_map]
    cases (items.get? entry.definition.referenceItemId).bind ItemRecord.icon with
    | none => rfl
    | some path => rfl
  · simp only [if_neg borrows]
    by_cases plain : entry.definition.icon = ""
    · simp only [if_pos plain]
      rfl
    · simp only [if_neg plain]
      rfl

/-- What a new item writes over its base gives the record it should have. -/
theorem Entry.setAll_newWrites (ids : IdRanges) (items : Table ItemRecord)
    (entry : Entry ItemDefinition) (base : ItemRecord) :
    base.setAll (newWrites ids items entry base.variant) =
      .ok (entry.recordOver ids items base) := by
  unfold newWrites
  rw [ItemRecord.setAll_append, ItemRecord.setAll_append, ItemRecord.setAll_append,
    ItemRecord.setAll_commonWrites]
  change ((Except.bind (ItemRecord.setAll _ _) _).bind _) = _
  rw [ItemRecord.setAll_stockWrites]
  change Except.bind (ItemRecord.setAll _ _) _ = _
  rw [ItemRecord.setAll_iconWrites]
  change ItemRecord.setAll _ _ = _
  rw [ItemRecord.setAll_kindWrites]
  rfl

/-! ## Which lists are new -/

namespace ItemDefinition

variable (item : ItemDefinition) (variant : ItemVariant) (list : ItemList)

/-- The lists that are replaced are those the item has for itself. -/
theorem mem_ownLists_iff : list ∈ item.ownLists variant ↔ item.OwnsList variant list := by
  unfold ownLists OwnsList
  cases item.kind <;> cases variant <;> cases list <;> decide

/-- Replaced lists hold the known bonuses or nothing, and the others what they held. -/
theorem contentsOver_eq (content : List ListEntry) :
    item.contentsOver variant list content =
      if list ∈ item.ownLists variant then
        (if list = .parameterChanges then item.bonusEntries variant else [])
      else content := by
  unfold contentsOver ownLists bonusEntries knownBonuses
  cases item.kind <;> cases variant <;> cases list <;> rfl

end ItemDefinition

/-! ## Making the item -/

/-- A new item waits for the icon it borrows when this is not there. -/
def Entry.AwaitsIcon (entry : Entry ItemDefinition) (items : Table ItemRecord) : Prop :=
  0 < entry.definition.referenceItemId ∧
    (items.get? entry.definition.referenceItemId).bind ItemRecord.icon = none

instance (entry : Entry ItemDefinition) (items : Table ItemRecord) :
    Decidable (entry.AwaitsIcon items) :=
  inferInstanceAs (Decidable (_ ∧ _))

/-- The item a plan waits for is the one whose icon is missing. -/
theorem awaits_planAround (ids : IdRanges) (items : Table ItemRecord)
    (entry : Entry ItemDefinition) (variant : ItemVariant) (record : ItemRecord) :
    (planAround ids items entry variant record).awaits =
      if entry.AwaitsIcon items then some entry.definition.referenceItemId else none := by
  unfold planAround iconSource Entry.AwaitsIcon
  by_cases borrows : 0 < entry.definition.referenceItemId
  · simp only [iconOf?_eq_map, borrows, true_and]
    cases (items.get? entry.definition.referenceItemId).bind ItemRecord.icon with
    | none => rfl
    | some path => rfl
  · simp only [borrows, false_and, if_false]
    by_cases plain : entry.definition.icon = ""
    · simp only [if_pos plain]
    · simp only [if_neg plain]

/-- The marks after a new item was made over an item of a shape. -/
def Entry.marksOver (entry : Entry ItemDefinition) (items : Table ItemRecord)
    (variant : ItemVariant) (marks : Marks) : Marks :=
  let item := entry.definition
  { bags := if item.kind = .bag ∧ variant = .bag then marks.bags.insert entry.id () else marks.bags
    pendingIcons := if entry.AwaitsIcon items
      then marks.pendingIcons.insert entry.id item.referenceItemId else marks.pendingIcons }

/-- The marks after carrying out the plan of a new item. -/
theorem marksAfter_planAround (ids : IdRanges) (items : Table ItemRecord)
    (entry : Entry ItemDefinition) (variant : ItemVariant) (record : ItemRecord) (marks : Marks) :
    (planAround ids items entry variant record).marksAfter marks =
      entry.marksOver items variant marks := by
  have bag : (planAround ids items entry variant record).isBag =
      decide (entry.definition.kind = .bag ∧ variant = .bag) := by
    change entry.definition.makesBag variant = _
    unfold ItemDefinition.makesBag
    cases entry.definition.kind <;> cases variant <;> rfl
  have bags : (if (planAround ids items entry variant record).isBag = true
      then (marks.addBag entry.id).2 else marks) =
      { marks with bags := if entry.definition.kind = .bag ∧ variant = .bag
          then marks.bags.insert entry.id () else marks.bags } := by
    rw [bag]
    by_cases both : entry.definition.kind = .bag ∧ variant = .bag
    · rw [if_pos both, if_pos (decide_eq_true both)]
      rfl
    · rw [if_neg both, if_neg (by rw [decide_eq_false both]; exact Bool.false_ne_true)]
  unfold ItemPlan.marksAfter Entry.marksOver
  rw [awaits_planAround]
  by_cases waits : entry.AwaitsIcon items
  · simp only [if_pos waits]
    exact congrArg (fun marks : Marks => { marks with
      pendingIcons := marks.pendingIcons.insert entry.id entry.definition.referenceItemId }) bags
  · simp only [if_neg waits]
    exact bags

/-- The strings with the title and the description of a new item. -/
def Entry.stringsOver (entry : Entry ItemDefinition) (ids : IdRanges) (texts : StringTable) :
    StringTable :=
  (texts.set (ids.titleKey entry.id) (entry.resolve entry.definition.name)).set
    (ids.descriptionKey entry.id) (entry.resolve entry.definition.description)

/-- A new item that is absent, and whose base is there, is made. Its record is that of the
definition over the base and holds the lists it should; those it has for itself are new, the others
are the base's own, and all lists that were there keep their content. Nothing else in the tables
changes but the two strings, and the marks tell whether it is a bag and waits for an icon. -/
theorem new_item_over_base (ids : IdRanges) (entry : Entry ItemDefinition) (state : ItemState)
    (grounded : state.tables.Grounded) (makes : entry.isPatch = false)
    (absent : state.tables.items.contains entry.id = false) (base : ItemRecord)
    (found : state.tables.items.get? entry.definition.baseItem = some base) :
    ∃ record lists,
      itemStep ids entry state = .ok
        ⟨if entry.AwaitsIcon state.tables.items then .deferred else .injected, entry.id,
          ⟨state.tables.putItem lists (entry.stringsOver ids state.tables.strings) entry.id record,
            entry.marksOver state.tables.items base.variant state.marks⟩⟩ ∧
      record.view lists =
        ⟨(entry.recordOver ids state.tables.items base).plain, fun list =>
          entry.definition.contentsOver base.variant list
            (state.tables.lists.read (base.handle list))⟩ ∧
      (∀ list, entry.definition.OwnsList base.variant list →
        ¬ state.tables.lists.Made (record.handle list)) ∧
      (∀ list, ¬ entry.definition.OwnsList base.variant list →
        record.handle list = base.handle list) ∧
      state.tables.lists.ExtendedBy lists := by
  let items := state.tables.items
  let plan := planAround ids items entry base.variant (entry.recordOver ids items base)
  have accepted := Entry.setAll_newWrites ids items entry base
  have handles : ∀ list, plan.record.handle list = base.handle list :=
    (ItemRecord.setAll_frame accepted).2.1
  have made : ∀ list, state.tables.lists.Made (plan.record.handle list) :=
    grounded.made_of_setAll found accepted
  have apart : plan.PushesApart := ItemPlan.pushesApart_planAround ids items entry _ _
  have detached := detachAll_detached plan.record state.tables.lists plan.ownLists
  have outcome : plan.outcome = if entry.AwaitsIcon items then .deferred else .injected := by
    unfold ItemPlan.outcome
    rw [show plan.awaits = _ from awaits_planAround ids items entry _ _]
    by_cases waits : entry.AwaitsIcon items
    · rw [if_pos waits, if_pos waits]
      rfl
    · rw [if_neg waits, if_neg waits]
      rfl
  refine ⟨(plan.finished state.tables.lists).1, (plan.finished state.tables.lists).2, ?_, ?_, ?_,
    ?_, ItemPlan.extendedBy_finished apart⟩
  · obtain ⟨record, accepted', planned⟩ := planItem_of_base ids found
    obtain rfl : entry.recordOver ids items base = record :=
      Except.ok.inj (accepted.symm.trans accepted')
    unfold itemStep
    rw [if_neg (by rw [makes]; exact Bool.false_ne_true),
      if_neg (by rw [absent]; exact Bool.false_ne_true), makeItem_eq, planned]
    change Except.ok (Step.mk plan.outcome entry.id (plan.carryOut state)) = _
    rw [outcome, ItemPlan.carryOut_eq,
      show plan.marksAfter state.marks = _ from marksAfter_planAround ids items entry _ _ _]
    rfl
  · rw [ItemPlan.view_finished apart made]
    refine congrArg (ItemView.mk _) ?_
    funext list
    rw [ItemDefinition.contentsOver_eq, ← handles]
    rfl
  · intro list own
    exact (detached.own list ((entry.definition.mem_ownLists_iff _ list).2 own)).1
  · intro list shared
    have others : list ∉ plan.ownLists :=
      fun member => shared ((entry.definition.mem_ownLists_iff _ list).1 member)
    exact (detached.shared list others).trans (handles list)

/-- A scarf made after the host's piece of gear, with a bonus the host does not know. -/
def scarf : Entry ItemDefinition where
  key := "wardrobe:scarf"
  id := 60000
  package := .ofManifest { id := "wardrobe" } "packages/wardrobe" .empty
  definition :=
    { id := "scarf", baseItem := 2, kind := .gear, icon := "scarf.png", category := "Hat"
      stats := [⟨"Warmth", 3⟩, ⟨"luck", 1⟩, ⟨" capacity ", 2⟩] }

/-- The scarf has its own icon and the two bonuses that are known; the host's piece of gear keeps
its one bonus, and both still share the other lists. -/
theorem scarf_over_gear :
    Host.seeded.tables.Grounded ∧ scarf.isPatch = false ∧
    Host.seeded.tables.items.contains 60000 = false ∧
    ∃ base, Host.seeded.tables.items.get? 2 = some base ∧
      ∃ record lists marks,
        itemStep {} scarf ⟨Host.seeded.tables, .empty⟩ = .ok ⟨.injected, 60000,
          ⟨Host.seeded.tables.putItem lists (scarf.stringsOver {} Host.seeded.tables.strings) 60000
            record, marks⟩⟩ ∧
        record.icon = some "packages/wardrobe/scarf.png" ∧ record.category = "hat" ∧
        record.stockCount = base.stockCount ∧ record.changes = base.changes ∧
        lists.read record.parameterChanges = [.parameter "warm" 3, .parameter "capacity" 2] ∧
        lists.read base.parameterChanges = [.parameter "warm" 5] := by
  have grounded := Tables.seeded_grounded
  have absent : Host.seeded.tables.items.contains 60000 = false := by decide
  obtain ⟨base, found, shape, bonuses⟩ : ∃ base, Host.seeded.tables.items.get? 2 = some base ∧
      base.variant = .gear ∧
      Host.seeded.tables.lists.read base.parameterChanges = [.parameter "warm" 5] :=
    ⟨_, rfl, rfl, by decide⟩
  obtain ⟨record, lists, made, shows, _, shared, extended⟩ :=
    new_item_over_base {} scarf ⟨Host.seeded.tables, .empty⟩ grounded (by decide) absent base found
  rw [shape] at shows shared
  have plain := congrArg ItemView.plain shows
  have contents := congrArg ItemView.contents shows
  refine ⟨grounded, by decide, absent, base, found, record, lists, _, made, ?_, ?_, ?_, ?_, ?_, ?_⟩
  · have path : scarf.package.path "scarf.png" = "packages/wardrobe/scarf.png" := by decide
    exact (congrArg ItemRecord.icon plain).trans (congrArg some path)
  · refine (congrArg ItemRecord.category plain).trans ?_
    exact (if_pos ⟨rfl, shape⟩).trans (by decide)
  · refine (congrArg ItemRecord.stockCount plain).trans (if_neg ?_)
    rw [shape]
    decide
  · exact shared .changes (by unfold ItemDefinition.OwnsList; decide)
  · have known : scarf.definition.knownBonuses =
        [.parameter "warm" 3, .parameter "capacity" 2] := by decide
    exact (congrFun contents .parameterChanges).trans known
  · exact (extended _ (grounded.items 2 base found .parameterChanges)).2.trans bonuses

end Modpack
