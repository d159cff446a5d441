import Modpack.Proofs.ItemSteps
import Modpack.Proofs.RecipeSteps

/-!
# Labels of items

A new item is labelled: its record has its own number and its own two string keys, and under these
keys stand its name and its description. Two items with different numbers have no string key in
common as long as the keys fit 32 bits, patches and copied icons write none of the labelled fields,
and recipes touch neither items nor strings. So the labels of an item stay as they are for as long
as its record does, and its strings for ever.
-/
namespace Modpack

variable {ids : IdRanges}

/-- A string is found under the key it was last written to, and a write leaves all other keys
alone. -/
theorem StringTable.get?_set (table : StringTable) (key other : Nat) (text : String) :
    (table.set key text).get? other = if key = other then some text else table.get? other :=
  IdMap.get?_insert table.texts key other text

namespace IdRanges

/-- The number is from the base of items on, and its string keys fit 32 bits. -/
structure HasKeys (ids : IdRanges) (item : Nat) : Prop where
  /-- The number is from the base on. -/
  own : ids.itemBase ≤ item
  /-- The keys fit 32 bits. -/
  fits : ids.stringKeyBase + (item - ids.itemBase) * 2 + 1 < Whole.idLimit

/-- The keys of such a number are the base and two for each item before, and one more. -/
theorem HasKeys.keys {item : Nat} (keyed : ids.HasKeys item) :
    ids.titleKey item = ids.stringKeyBase + (item - ids.itemBase) * 2 ∧
      ids.descriptionKey item = ids.titleKey item + 1 := by
  have title := titleKey_of_lt (Nat.lt_of_succ_lt keyed.fits)
  refine ⟨title, Nat.mod_eq_of_lt ?_⟩
  rw [title]
  exact keyed.fits

/-- Items with different numbers have no string key in common. -/
theorem HasKeys.apart {left right : Nat} (leftKeyed : ids.HasKeys left)
    (rightKeyed : ids.HasKeys right) (apart : left ≠ right) :
    ids.titleKey left ≠ ids.titleKey right ∧ ids.titleKey left + 1 ≠ ids.titleKey right ∧
      ids.titleKey left ≠ ids.titleKey right + 1 := by
  have leftOwn := leftKeyed.own
  have rightOwn := rightKeyed.own
  rw [leftKeyed.keys.1, rightKeyed.keys.1]
  omega

end IdRanges

/-! ## Records -/

namespace ItemRecord

/-- The fields that name a record and its strings. -/
def labels : List ItemField := [.id, .titleKey, .descriptionKey]

/-- The record has a number and the string keys that belong to it. -/
structure Labelled (ids : IdRanges) (number : Nat) (record : ItemRecord) : Prop where
  /-- The number. -/
  id : record.id = number
  /-- The key of the title. -/
  titleKey : record.titleKey = FieldValue.narrow (ids.titleKey number)
  /-- The key of the description. -/
  descriptionKey : record.descriptionKey = FieldValue.narrow (ids.titleKey number + 1)

/-- A record that agrees with a labelled one in these fields is labelled. -/
theorem Labelled.of_get?_eq {id : Nat} {record written : ItemRecord}
    (labelled : record.Labelled ids id)
    (same : ∀ field ∈ labels, written.get? field = record.get? field) :
    written.Labelled ids id := by
  have number := same .id (by decide)
  have title := same .titleKey (by decide)
  have description := same .descriptionKey (by decide)
  simp only [get?, Option.some.injEq, FieldValue.id.injEq, FieldValue.int.injEq, Int.natCast_inj]
    at number title description
  exact ⟨number.trans labelled.id, title.trans labelled.titleKey,
    description.trans labelled.descriptionKey⟩

/-- Writing other fields keeps a record labelled. -/
theorem Labelled.setAll {id : Nat} {record written : ItemRecord}
    (labelled : record.Labelled ids id) {writes : ItemWrites}
    (accepted : record.setAll writes = .ok written)
    (others : ∀ write ∈ writes, write.1 ∉ labels) : written.Labelled ids id := by
  refine labelled.of_get?_eq fun field isLabel => (setAll_frame accepted).2.2 field ?_
  intro inWrites
  obtain ⟨write, member, rfl⟩ := List.mem_map.1 inWrites
  exact others write member isLabel

/-- What a new item writes besides its labels. -/
def otherWrites (items : Table ItemRecord) (entry : Entry ItemDefinition)
    (variant : ItemVariant) : ItemWrites :=
  let item := entry.definition
  let common : ItemWrites :=
    [(.price, .int item.price), (.weight, .float item.weight), (.rareColor, .int item.rareColor),
      (.sellable, .bool item.sellable), (.notForFire, .bool item.notForFire),
      (.soundType, .int item.soundType), (.fireRate, .int item.firerate)]
  common ++ item.stockWrites variant ++ (iconSource items entry).writes ++ item.kindWrites variant

/-- Besides its labels a new item writes none of the fields of labels. -/
theorem otherWrites_not_labels (items : Table ItemRecord) (entry : Entry ItemDefinition)
    (variant : ItemVariant) : ∀ write ∈ otherWrites items entry variant, write.1 ∉ labels := by
  have stock : ∀ write ∈ entry.definition.stockWrites variant, write.1 ∉ labels := by
    cases variant <;> simp [ItemDefinition.stockWrites, labels]
  have icon : ∀ write ∈ (iconSource items entry).writes, write.1 ∉ labels := by
    cases iconSource items entry <;> simp [IconSource.writes, labels]
  have kind : ∀ write ∈ entry.definition.kindWrites variant, write.1 ∉ labels := by
    unfold ItemDefinition.kindWrites
    split
    · simp [labels]
    · simp [labels]
    · split <;> simp [labels]
    · simp
  intro write member
  rw [otherWrites, List.mem_append, List.mem_append, List.mem_append] at member
  rcases member with ((inCommon | inStock) | inIcon) | inKind
  · revert write
    simp [labels]
  · exact stock write inStock
  · exact icon write inIcon
  · exact kind write inKind

/-- The record of a new item is labelled. -/
theorem labelled_of_newWrites {items : Table ItemRecord} {entry : Entry ItemDefinition}
    {base record : ItemRecord}
    (accepted : base.setAll (newWrites ids items entry base.variant) = .ok record) :
    record.Labelled ids entry.id := by
  -- The labels are written first, so what they hold then can be read off.
  let started : ItemRecord :=
    { base with
      id := entry.id
      titleKey := FieldValue.narrow (ids.titleKey entry.id)
      descriptionKey := FieldValue.narrow (ids.titleKey entry.id + 1) }
  have labelled : started.Labelled ids entry.id := ⟨rfl, rfl, rfl⟩
  have written : started.setAll (otherWrites items entry base.variant) = .ok record := accepted
  exact labelled.setAll written (otherWrites_not_labels items entry base.variant)

end ItemRecord

/-! ## Tables -/

/-- The string table has the name and the description of an item under its keys. -/
structure Tables.Tells (ids : IdRanges) (entry : Entry ItemDefinition) (tables : Tables) :
    Prop where
  /-- The name. -/
  title : tables.strings.get? (ids.titleKey entry.id) =
    some (entry.resolve entry.definition.name)
  /-- The description. -/
  description : tables.strings.get? (ids.titleKey entry.id + 1) =
    some (entry.resolve entry.definition.description)

/-- The record under a number, if there is one, is labelled. -/
def Tables.Labels (ids : IdRanges) (id : Nat) (tables : Tables) : Prop :=
  ∀ record, tables.items.get? id = some record → record.Labelled ids id

/-- An item that is present has its strings. -/
def Tables.Introduces (ids : IdRanges) (entry : Entry ItemDefinition) (tables : Tables) : Prop :=
  tables.items.contains entry.id = true → tables.Tells ids entry

/-- Tables with the same strings tell the same. -/
theorem Tables.Tells.of_strings_eq {entry : Entry ItemDefinition} {before after : Tables}
    (told : before.Tells ids entry) (strings : after.strings = before.strings) :
    after.Tells ids entry := by
  refine ⟨?_, ?_⟩
  · rw [strings]
    exact told.title
  · rw [strings]
    exact told.description

/-- Two items whose strings do not touch: they have different numbers and with these different keys,
or they are the same item. -/
structure Entry.Beside (ids : IdRanges) (entry other : Entry ItemDefinition) : Prop where
  /-- The one item has keys of its own. -/
  own : ids.HasKeys entry.id
  /-- So has the other, if it makes a record. -/
  otherOwn : other.isPatch = false → ids.HasKeys other.id
  /-- If it makes the record of the one, it is the one. -/
  same : other.isPatch = false → other.id = entry.id → other.forget = entry.forget

section Step

variable {entry other : Entry ItemDefinition} {state : ItemState} {done : Step ItemState}

/-! ## Strings -/

/-- The strings after an item was made are those of the item, and no others have changed. -/
theorem Tables.Tells.carryOut (beside : entry.Beside ids other) (makes : other.isPatch = false)
    {items : Table ItemRecord} {variant : ItemVariant} {record : ItemRecord}
    (told : other.id = entry.id ∨ state.tables.Tells ids entry) :
    ((planAround ids items other variant record).carryOut state).tables.Tells ids entry := by
  let plan := planAround ids items other variant record
  have texts (key : Nat) : (plan.carryOut state).tables.strings.get? key =
      if ids.titleKey other.id + 1 = key then some plan.description
      else if ids.titleKey other.id = key then some plan.title
      else state.tables.strings.get? key := by
    rw [← (beside.otherOwn makes).keys.2]
    change (plan.strings state.tables.strings).get? key = _
    rw [ItemPlan.strings, StringTable.get?_set, StringTable.get?_set]
    rfl
  by_cases sameId : other.id = entry.id
  · have same := beside.same makes sameId
    have package : other.package = entry.package :=
      show other.forget.package = entry.forget.package from congrArg Entry.package same
    have definition : other.definition = entry.definition := (Entry.of_forget_eq same).2.1
    have title : plan.title = entry.resolve entry.definition.name := by
      simp only [plan, planAround, Entry.resolve, package, definition]
    have description : plan.description = entry.resolve entry.definition.description := by
      simp only [plan, planAround, Entry.resolve, package, definition]
    refine ⟨(texts _).trans ?_, (texts _).trans ?_⟩
    · rw [sameId, if_neg (Nat.succ_ne_self _), if_pos rfl, title]
    · rw [sameId, if_pos rfl, description]
  · obtain ⟨first, second, third⟩ := (beside.otherOwn makes).apart beside.own sameId
    have before := told.resolve_left sameId
    refine ⟨(texts _).trans ?_, (texts _).trans ?_⟩
    · rw [if_neg second, if_neg first]
      exact before.title
    · rw [if_neg fun same => first (Nat.succ.inj same), if_neg third]
      exact before.description

/-- A step keeps the strings of an item. -/
theorem itemStep_tells (ok : itemStep ids other state = .ok done)
    (beside : entry.Beside ids other) (told : state.tables.Tells ids entry) :
    done.state.tables.Tells ids entry := by
  cases itemTurn_of_ok ok with
  | upToDate | present => exact told
  | patched => exact told.of_strings_eq rfl
  | made makes => exact .carryOut beside makes (.inr told)

/-- A step introduces the item it makes, and keeps the others introduced. -/
theorem itemStep_introduces (ok : itemStep ids other state = .ok done)
    (beside : entry.Beside ids other) (introduced : state.tables.Introduces ids entry) :
    done.state.tables.Introduces ids entry := by
  intro present
  cases itemTurn_of_ok ok with
  | upToDate | present => exact introduced present
  | patched patches record written found =>
    have there : state.tables.items.contains entry.id = true := by
      rcases Table.eq_or_contains_of_set present with sameId | before
      · rw [← sameId]
        exact Table.contains_of_get? found
      · exact before
    exact (introduced there).of_strings_eq rfl
  | made makes =>
    refine .carryOut beside makes ?_
    exact (Table.eq_or_contains_of_set present).imp_right introduced

/-- Trying to copy an icon keeps all strings. -/
theorem retryIcon_strings (id : Nat) (state : ItemState) :
    (retryIcon id state).2.tables.strings = state.tables.strings := by
  have turn := retryIcon_turn id state
  generalize retryIcon id state = tried at turn ⊢
  cases turn <;> rfl

/-! ## Records -/

/-- Writing a record that is there, but for its labels, keeps records labelled. -/
theorem Tables.Labels.rewrite {number : Nat} {tables : Tables} (labels : tables.Labels ids number)
    {id : Nat} {record written : ItemRecord} (found : tables.items.get? id = some record)
    (same : ∀ field ∈ ItemRecord.labels, written.get? field = record.get? field) :
    (tables.putItem tables.lists tables.strings id written).Labels ids number := by
  intro held heldFound
  have after : (if id = number then some written else tables.items.get? number) = some held :=
    (Table.get?_set _ _ _ _).symm.trans heldFound
  by_cases here : id = number
  · rw [if_pos here, Option.some.injEq] at after
    rw [← after]
    exact (labels record (here ▸ found)).of_get?_eq same
  · rw [if_neg here] at after
    exact labels held after

/-- A step keeps the records of all numbers labelled, also that of the item it makes. -/
theorem itemStep_labels {number : Nat} (ok : itemStep ids other state = .ok done)
    (labels : state.tables.Labels ids number) : done.state.tables.Labels ids number := by
  cases itemTurn_of_ok ok with
  | upToDate | present => exact labels
  | patched patches record written found outdated accepted =>
    refine labels.rewrite found fun field isLabel => ?_
    refine (ItemRecord.setAll_frame accepted).2.2 field fun inWrites => ?_
    obtain ⟨write, member, rfl⟩ := List.mem_map.1 inWrites
    have patchable := other.definition.patchValues_patchable state.tables.items write
      (List.mem_filter.1 member).1
    have apart : ∀ field ∈ ItemField.patchable, field ∉ ItemRecord.labels := by decide
    exact apart write.1 patchable isLabel
  | made makes absent base record found accepted =>
    let plan := planAround ids state.tables.items other base.variant record
    intro held heldFound
    have after : (if other.id = number then some (plan.finished state.tables.lists).1
        else state.tables.items.get? number) = some held :=
      (Table.get?_set _ _ _ _).symm.trans heldFound
    by_cases here : other.id = number
    · rw [if_pos here, Option.some.injEq] at after
      rw [← after, ← here]
      refine (ItemRecord.labelled_of_newWrites accepted).of_get?_eq fun field _ => ?_
      exact plan.get?_finished state.tables.lists field
    · rw [if_neg here] at after
      exact labels held after

/-- Trying to copy an icon keeps records labelled. -/
theorem retryIcon_labels {number : Nat} (id : Nat) (labels : state.tables.Labels ids number) :
    (retryIcon id state).2.tables.Labels ids number := by
  have turn := retryIcon_turn id state
  generalize retryIcon id state = tried at turn ⊢
  cases turn with
  | nothing => exact labels
  | copied reference record written icon pending found shown accepted =>
    refine labels.rewrite found fun field isLabel => ?_
    refine (ItemRecord.set_frame accepted).2.2 field ?_
    rintro rfl
    exact absurd isLabel (by decide)

end Step

/-- A step over a recipe leaves strings alone. -/
theorem recipeStep_strings {items : Registry ItemDefinition} {entry : Entry RecipeDefinition}
    {tables : Tables} {done : Step Tables} (ok : recipeStep ids items entry tables = .ok done) :
    done.state.strings = tables.strings := by
  cases recipeTurn_of_ok ok <;> rfl

end Modpack
