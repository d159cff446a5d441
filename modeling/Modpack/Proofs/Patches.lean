import Mathlib.Data.List.Nodup
import Modpack.Proofs.FieldValues
import Modpack.Proofs.NewItems

/-!
# What a patch writes

The values a patch asks for are those it overrides, which the definition alone determines, and
the icon of the item it names, when there is one to show. They go into eight fields, each at most
once, and none is refused. Afterwards the target shows all of them, and nothing else about it has
changed.
-/
namespace Modpack

namespace ItemField

/-- The fields a patch can write. -/
def patchable : List ItemField :=
  [price, weight, rareColor, sellable, notForFire, soundType, fireRate, icon]

end ItemField

/-- A record does not lack a value that it holds, or one that is the same. -/
theorem ItemRecord.lacks_eq_false_iff {record : ItemRecord} {write : ItemField × FieldValue} :
    record.lacks write = false ↔
      ∃ held, record.get? write.1 = some held ∧ held.same write.2 = true := by
  rw [lacks]
  cases found : record.get? write.1 with
  | none => simp
  | some held => simp

/-- Values that are all accepted are all written in place, and nothing is refused. -/
theorem ItemRecord.setEach_of_setAll {record written : ItemRecord} {writes : ItemWrites}
    (accepted : record.setAll writes = .ok written) : record.setEach writes = (written, none) := by
  induction writes generalizing record with
  | nil =>
    obtain rfl := Except.ok.inj accepted
    rfl
  | cons write rest ih =>
    rw [setAll_cons] at accepted
    obtain ⟨middle, first, later⟩ := Except.exists_of_bind_eq_ok accepted
    rw [setEach, first]
    exact ih later

namespace ItemDefinition

/-- The values a patch overrides whatever the tables hold. -/
def overrides (item : ItemDefinition) : ItemWrites :=
  let plain := minimal item.id
  (if item.price ≠ plain.price then [(.price, .int item.price)] else [])
    ++ (if (item.weight - plain.weight).abs > weightTolerance
      then [(.weight, .float item.weight)] else [])
    ++ (if item.rareColor ≠ 0 then [(.rareColor, .int item.rareColor)] else [])
    ++ [(.sellable, .bool item.sellable), (.notForFire, .bool item.notForFire)]
    ++ (if item.soundType ≠ 0 then [(.soundType, .int item.soundType)] else [])
    ++ (if item.firerate ≠ 0 then [(.fireRate, .int item.firerate)] else [])

/-- The icon a patch borrows, if it names an item that has one. -/
def borrowedIcon? (item : ItemDefinition) (items : Table ItemRecord) : Option FieldValue :=
  if 0 < item.referenceItemId then iconOf? items item.referenceItemId else none

/-- A patch asks for what it overrides, then for the icon it borrows. -/
theorem patchValues_eq (item : ItemDefinition) (items : Table ItemRecord) :
    item.patchValues items =
      item.overrides ++ (item.borrowedIcon? items).toList.map fun icon => (.icon, icon) := by
  rw [patchValues, borrowedIcon?]
  refine congrArg (item.overrides ++ ·) ?_
  by_cases borrows : 0 < item.referenceItemId
  · rw [if_pos borrows, if_pos borrows]
    cases iconOf? items item.referenceItemId with
    | none => rfl
    | some icon => rfl
  · rw [if_neg borrows, if_neg borrows]
    rfl

/-- A value is asked for when it is overridden or is the borrowed icon. -/
theorem mem_patchValues {item : ItemDefinition} {items : Table ItemRecord}
    {write : ItemField × FieldValue} :
    write ∈ item.patchValues items ↔
      write ∈ item.overrides ∨ ∃ icon, item.borrowedIcon? items = some icon ∧
        write = (.icon, icon) := by
  rw [patchValues_eq, List.mem_append]
  simp only [List.mem_map, Option.mem_toList, eq_comm]

/-- Every value a patch overrides is of the type of its field, which is not the icon. -/
theorem overrides_own_types (item : ItemDefinition) :
    ∀ write ∈ item.overrides, write.2.typeName = write.1.valueType ∧ write.1 ≠ .icon := by
  intro write member
  simp only [overrides, List.mem_append, List.mem_ite_nil_right, List.mem_cons, List.not_mem_nil,
    or_false] at member
  rcases member with
    ((((⟨_, rfl⟩ | ⟨_, rfl⟩) | ⟨_, rfl⟩) | rfl | rfl) | ⟨_, rfl⟩) | ⟨_, rfl⟩ <;>
    exact ⟨rfl, by simp⟩

/-- A number that a patch overrides is a number. -/
theorem overrides_number (item : ItemDefinition) {write : ItemField × FieldValue}
    (member : write ∈ item.overrides) {content : Float} (float : write.2 = .float content) :
    content.isNaN = false := by
  simp only [overrides, List.mem_append, List.mem_ite_nil_right, List.mem_cons, List.not_mem_nil,
    or_false] at member
  rcases member with
    ((((⟨_, rfl⟩ | ⟨apart, rfl⟩) | ⟨_, rfl⟩) | rfl | rfl) | ⟨_, rfl⟩) | ⟨_, rfl⟩ <;> cases float
  exact Numerical.isNaN_eq_false_of_apart apart

/-- Every value a patch asks for is of the type of its field. -/
theorem patchValues_own_types (item : ItemDefinition) (items : Table ItemRecord) :
    ∀ write ∈ item.patchValues items, write.2.typeName = write.1.valueType := by
  intro write member
  rcases mem_patchValues.1 member with overridden | ⟨icon, borrowed, rfl⟩
  · exact (overrides_own_types item write overridden).1
  · rw [borrowedIcon?] at borrowed
    split at borrowed
    · obtain ⟨path, rfl⟩ := iconOf?_isAsset borrowed
      rfl
    · cases borrowed

/-- The value a patch asks for is the same as itself. -/
theorem same_self_of_mem_patchValues {item : ItemDefinition} {items : Table ItemRecord}
    {write : ItemField × FieldValue} (member : write ∈ item.patchValues items) :
    write.2.same write.2 = true := by
  apply FieldValue.same_self
  intro content float
  rcases mem_patchValues.1 member with overridden | ⟨icon, _, rfl⟩
  · exact overrides_number item overridden float
  · have own := patchValues_own_types item items _ member
    simp only at float own
    rw [float] at own
    simp [FieldValue.typeName, ItemField.valueType] at own

/-- A value that is asked for on a condition is asked for in its own field. -/
theorem sublist_of_condition (condition : Prop) [Decidable condition] (field : ItemField)
    (value : FieldValue) :
    ((if condition then [(field, value)] else []).map Prod.fst).Sublist [field] := by
  by_cases holds : condition
  · rw [if_pos holds]
    exact .refl _
  · rw [if_neg holds]
    exact List.nil_sublist _

/-- A patch asks for the patchable fields in their order, leaving some out. -/
theorem patchValues_sublist (item : ItemDefinition) (items : Table ItemRecord) :
    ((item.patchValues items).map Prod.fst).Sublist ItemField.patchable := by
  have icon : (((item.borrowedIcon? items).toList.map fun icon =>
      (ItemField.icon, icon)).map Prod.fst).Sublist [.icon] := by
    cases item.borrowedIcon? items with
    | none => exact List.nil_sublist _
    | some icon => exact .refl _
  have order : ItemField.patchable = [ItemField.price] ++ [ItemField.weight] ++
      [ItemField.rareColor] ++ [ItemField.sellable, ItemField.notForFire] ++
      [ItemField.soundType] ++ [ItemField.fireRate] ++ [ItemField.icon] := rfl
  rw [patchValues_eq, order]
  simp only [overrides, List.map_append]
  refine List.Sublist.append ?_ icon
  refine List.Sublist.append ?_ (sublist_of_condition _ _ _)
  refine List.Sublist.append ?_ (sublist_of_condition _ _ _)
  refine List.Sublist.append ?_ (List.Sublist.refl _)
  refine List.Sublist.append ?_ (sublist_of_condition _ _ _)
  exact List.Sublist.append (sublist_of_condition _ _ _) (sublist_of_condition _ _ _)

/-- A patch asks for every field at most once. -/
theorem patchValues_nodup (item : ItemDefinition) (items : Table ItemRecord) :
    ((item.patchValues items).map Prod.fst).Nodup :=
  (item.patchValues_sublist items).nodup (by decide)

/-- A patch asks for patchable fields only. -/
theorem patchValues_patchable (item : ItemDefinition) (items : Table ItemRecord) :
    ∀ write ∈ item.patchValues items, write.1 ∈ ItemField.patchable :=
  fun _ member => (item.patchValues_sublist items).subset (List.mem_map_of_mem member)

/-- A patchable field keeps the whole of what is written. -/
theorem wide_of_patchable {field : ItemField} (member : field ∈ ItemField.patchable) :
    field.isNarrow = false := by
  revert field
  decide

section Patched

variable {item : ItemDefinition} {items : Table ItemRecord} {record written : ItemRecord}

/-- After a patch was written its fields hold what was written. -/
theorem get?_of_patched
    (accepted : record.setAll ((item.patchValues items).filter record.lacks) = .ok written)
    {write : ItemField × FieldValue}
    (member : write ∈ (item.patchValues items).filter record.lacks) :
    written.get? write.1 = some write.2 := by
  have fields : (((item.patchValues items).filter record.lacks).map Prod.fst).Sublist
      ((item.patchValues items).map Prod.fst) := List.filter_sublist.map Prod.fst
  refine ItemRecord.get?_of_setAll accepted (fields.nodup (item.patchValues_nodup items)) ?_ ?_
    member
  · intro other inFilter
    exact item.patchValues_own_types items other (List.mem_filter.1 inFilter).1
  · intro other inFilter
    exact wide_of_patchable
      (item.patchValues_patchable items other (List.mem_filter.1 inFilter).1)

/-- After a patch was written its target lacks nothing the patch asks for. -/
theorem lacks_eq_false_of_patched
    (accepted : record.setAll ((item.patchValues items).filter record.lacks) = .ok written) :
    ∀ write ∈ item.patchValues items, written.lacks write = false := by
  intro write member
  by_cases lacking : record.lacks write = true
  · have held := get?_of_patched accepted (List.mem_filter.2 ⟨member, lacking⟩)
    exact ItemRecord.lacks_eq_false_iff.2 ⟨write.2, held, same_self_of_mem_patchValues member⟩
  · -- The field is not written, because no other value is asked for in it.
    have absent : write.1 ∉ ((item.patchValues items).filter record.lacks).map Prod.fst := by
      intro inFields
      obtain ⟨other, inFilter, sameField⟩ := List.mem_map.1 inFields
      obtain ⟨inValues, otherLacking⟩ := List.mem_filter.1 inFilter
      have equal : other = write :=
        List.inj_on_of_nodup_map (item.patchValues_nodup items) inValues member sameField
      rw [equal] at otherLacking
      exact lacking otherLacking
    have kept := (ItemRecord.setAll_frame accepted).2.2 write.1 absent
    rw [ItemRecord.lacks, kept]
    exact Bool.eq_false_iff.2 lacking

end Patched

end ItemDefinition

end Modpack
