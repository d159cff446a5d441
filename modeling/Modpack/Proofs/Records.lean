import Modpack.Host.ItemRecord
import Modpack.Host.RecipeRecord

/-!
# What writing fields does to records

A write that is accepted changes one field and leaves the handles of nested lists alone. The
plain part of a record is the record with its handles taken out; writing does not look at the
handles, so it commutes with taking them out.
-/
namespace Modpack

/-- A result that was changed afterwards came from a result. -/
theorem Except.eq_ok_of_map_eq_ok {ε α β : Type} {result : Except ε α} {change : α → β}
    {changed : β} (mapped : result.map change = .ok changed) :
    ∃ value, result = .ok value ∧ change value = changed := by
  cases result with
  | error cause => cases mapped
  | ok value => exact ⟨value, rfl, Except.ok.inj mapped⟩

/-- Two steps in a row come to a result when the first comes to what the second starts from. -/
theorem Except.exists_of_bind_eq_ok {ε α β : Type} {first : Except ε α} {second : α → Except ε β}
    {value : β} (same : first.bind second = .ok value) :
    ∃ middle, first = .ok middle ∧ second middle = .ok value := by
  cases first with
  | error cause => cases same
  | ok middle => exact ⟨middle, rfl, same⟩

/-! ## Items -/

namespace ItemField

/-- The name of the type of a field's value. -/
def valueType : ItemField → String
  | id => "id"
  | weight | capacity => "float"
  | sellable | notForFire | stockable => "bool"
  | icon => "asset"
  | category => "text"
  | _ => "int"

/-- Whether a field keeps a whole number only in part. -/
def isNarrow : ItemField → Bool
  | titleKey | descriptionKey => true
  | _ => false

end ItemField

namespace ItemRecord

/-- The record without the handles of its nested lists. -/
def plain (record : ItemRecord) : ItemRecord :=
  { record with changes := ⟨0⟩, buffChanges := ⟨0⟩, parameterChanges := ⟨0⟩ }

/-- A field does not depend on the handles. -/
theorem get?_plain (record : ItemRecord) (field : ItemField) :
    record.plain.get? field = record.get? field := by
  cases field <;> rfl

/-- Putting another list in the place of a nested one leaves the plain part alone. -/
theorem plain_setHandle (record : ItemRecord) (list : ItemList) (handle : ListHandle) :
    (record.setHandle list handle).plain = record.plain := by
  cases list <;> rfl

/-- After another list was put in the place of a nested one, its handle is the new one. -/
theorem handle_setHandle (record : ItemRecord) (list other : ItemList) (handle : ListHandle) :
    (record.setHandle list handle).handle other =
      if other = list then handle else record.handle other := by
  cases list <;> cases other <;> rfl

/-- Writing commutes with taking the handles out. -/
theorem set_plain (record : ItemRecord) (field : ItemField) (value : FieldValue) :
    record.plain.set field value = (record.set field value).map plain := by
  cases field <;> cases value <;> try rfl
  -- A whole number written into the id is the one case that looks at the number.
  simp only [set, FieldValue.toId]
  split <;> rfl

/-- An accepted write leaves the shape, the handles and all other fields alone. -/
theorem set_frame {record written : ItemRecord} {field : ItemField} {value : FieldValue}
    (accepted : record.set field value = .ok written) :
    written.variant = record.variant ∧ (∀ list, written.handle list = record.handle list) ∧
      ∀ other, other ≠ field → written.get? other = record.get? other := by
  cases field <;>
    (obtain ⟨content, _, rfl⟩ := Except.eq_ok_of_map_eq_ok accepted
     refine ⟨rfl, fun list => by cases list <;> rfl, fun other apart => ?_⟩
     cases other <;> first | rfl | exact absurd rfl apart)

/-- A field accepts every value of its own type, and holds it afterwards unless it narrows. -/
theorem set_own_type (record : ItemRecord) {field : ItemField} {value : FieldValue}
    (own : value.typeName = field.valueType) :
    ∃ written, record.set field value = .ok written ∧
      (field.isNarrow = false → written.get? field = some value) := by
  cases field <;> cases value <;>
    first
    | (simp [FieldValue.typeName, ItemField.valueType] at own; done)
    | exact ⟨_, rfl, fun _ => rfl⟩
    | exact ⟨_, rfl, fun wide => by cases wide⟩

/-- Writing several fields is writing the first and then the others. -/
theorem setAll_cons (record : ItemRecord) (write : ItemField × FieldValue)
    (rest : List (ItemField × FieldValue)) :
    record.setAll (write :: rest) =
      (record.set write.1 write.2).bind fun written => written.setAll rest := rfl

/-- Writing several fields commutes with taking the handles out. -/
theorem setAll_plain (record : ItemRecord) (writes : List (ItemField × FieldValue)) :
    record.plain.setAll writes = (record.setAll writes).map plain := by
  induction writes generalizing record with
  | nil => rfl
  | cons write rest ih =>
    rw [setAll_cons, setAll_cons, set_plain]
    cases record.set write.1 write.2 with
    | error cause => rfl
    | ok written => exact ih written

/-- Accepted writes leave the shape, the handles and all fields not written alone. -/
theorem setAll_frame {record written : ItemRecord} {writes : List (ItemField × FieldValue)}
    (accepted : record.setAll writes = .ok written) :
    written.variant = record.variant ∧ (∀ list, written.handle list = record.handle list) ∧
      ∀ field, field ∉ writes.map Prod.fst → written.get? field = record.get? field := by
  induction writes generalizing record with
  | nil =>
    obtain rfl := Except.ok.inj accepted
    exact ⟨rfl, fun _ => rfl, fun _ _ => rfl⟩
  | cons write rest ih =>
    rw [setAll_cons] at accepted
    cases first : record.set write.1 write.2 with
    | error cause =>
      rw [first] at accepted
      cases accepted
    | ok middle =>
      rw [first] at accepted
      obtain ⟨shape, handles, fields⟩ := set_frame first
      obtain ⟨shape', handles', fields'⟩ := ih accepted
      refine ⟨shape'.trans shape, fun list => (handles' list).trans (handles list), ?_⟩
      intro field absent
      rw [List.map_cons, List.mem_cons, not_or] at absent
      exact (fields' field absent.2).trans (fields field absent.1)

/-- Values of the fields' own types are all accepted. -/
theorem setAll_own_types (record : ItemRecord) {writes : List (ItemField × FieldValue)}
    (own : ∀ write ∈ writes, write.2.typeName = write.1.valueType) :
    ∃ written, record.setAll writes = .ok written := by
  induction writes generalizing record with
  | nil => exact ⟨record, rfl⟩
  | cons write rest ih =>
    obtain ⟨middle, first, _⟩ := set_own_type record (own write List.mem_cons_self)
    obtain ⟨written, later⟩ := ih middle fun other member =>
      own other (List.mem_cons_of_mem write member)
    refine ⟨written, ?_⟩
    rw [setAll_cons, first]
    exact later

/-- After fields were written, each once and with a value of its own type, they hold what was
written. -/
theorem get?_of_setAll {record written : ItemRecord} {writes : List (ItemField × FieldValue)}
    (accepted : record.setAll writes = .ok written) (once : (writes.map Prod.fst).Nodup)
    (own : ∀ write ∈ writes, write.2.typeName = write.1.valueType)
    (wide : ∀ write ∈ writes, write.1.isNarrow = false) {field : ItemField} {value : FieldValue}
    (member : (field, value) ∈ writes) : written.get? field = some value := by
  induction writes generalizing record with
  | nil => cases member
  | cons write rest ih =>
    obtain ⟨middle, first, held⟩ := set_own_type record (own write List.mem_cons_self)
    rw [setAll_cons, first] at accepted
    rw [List.map_cons, List.nodup_cons] at once
    rcases List.mem_cons.1 member with rfl | later
    · have kept := (setAll_frame accepted).2.2 _ once.1
      exact kept.trans (held (wide _ List.mem_cons_self))
    · exact ih accepted once.2 (fun other inRest => own other (List.mem_cons_of_mem write inRest))
        (fun other inRest => wide other (List.mem_cons_of_mem write inRest)) later

/-- Writing fields in two turns is writing them in one. -/
theorem setAll_append (record : ItemRecord) (front back : List (ItemField × FieldValue)) :
    record.setAll (front ++ back) =
      (record.setAll front).bind fun written => written.setAll back :=
  List.foldlM_append

/-- A field holds the last value written to it, if the value is of the field's own type and the
field does not narrow. -/
theorem get?_of_setAll_append {record written : ItemRecord}
    {front back : List (ItemField × FieldValue)} {field : ItemField} {value : FieldValue}
    (accepted : record.setAll (front ++ (field, value) :: back) = .ok written)
    (own : value.typeName = field.valueType) (wide : field.isNarrow = false)
    (last : field ∉ back.map Prod.fst) : written.get? field = some value := by
  rw [setAll_append] at accepted
  cases first : record.setAll front with
  | error cause =>
    rw [first] at accepted
    cases accepted
  | ok middle =>
    obtain ⟨next, second, held⟩ := set_own_type middle own
    rw [first, Except.bind, setAll_cons, second] at accepted
    exact ((setAll_frame accepted).2.2 field last).trans (held wide)

end ItemRecord

/-! ## Recipes -/

namespace RecipeField

/-- The name of the type of a field's value. -/
def valueType : RecipeField → String
  | id | resultItem => "id"
  | kind | title | bench => "text"
  | active => "bool"
  | _ => "int"

end RecipeField

namespace RecipeRecord

/-- The record without the handles of its nested lists. -/
def plain (record : RecipeRecord) : RecipeRecord :=
  { record with requirePrimary := ⟨0⟩, requireSecondary := ⟨0⟩ }

/-- Writing commutes with taking the handles out. -/
theorem set_plain (record : RecipeRecord) (field : RecipeField) (value : FieldValue) :
    record.plain.set field value = (record.set field value).map plain := by
  cases field <;> cases value <;> try rfl
  -- The two id fields look at a whole number before they take it.
  all_goals
    simp only [set, FieldValue.toId]
    split <;> rfl

/-- Writing several fields is writing the first and then the others. -/
theorem setAll_cons (record : RecipeRecord) (write : RecipeField × FieldValue)
    (rest : List (RecipeField × FieldValue)) :
    record.setAll (write :: rest) =
      (record.set write.1 write.2).bind fun written => written.setAll rest := rfl

/-- Writing several fields commutes with taking the handles out. -/
theorem setAll_plain (record : RecipeRecord) (writes : List (RecipeField × FieldValue)) :
    record.plain.setAll writes = (record.setAll writes).map plain := by
  induction writes generalizing record with
  | nil => rfl
  | cons write rest ih =>
    rw [setAll_cons, setAll_cons, set_plain]
    cases record.set write.1 write.2 with
    | error cause => rfl
    | ok written => exact ih written

/-- A field accepts every value of its own type. -/
theorem set_own_type (record : RecipeRecord) {field : RecipeField} {value : FieldValue}
    (own : value.typeName = field.valueType) : ∃ written, record.set field value = .ok written := by
  cases field <;> cases value <;>
    first
    | (simp [FieldValue.typeName, RecipeField.valueType] at own; done)
    | exact ⟨_, rfl⟩

/-- Values of the fields' own types are all accepted. -/
theorem setAll_own_types (record : RecipeRecord) {writes : List (RecipeField × FieldValue)}
    (own : ∀ write ∈ writes, write.2.typeName = write.1.valueType) :
    ∃ written, record.setAll writes = .ok written := by
  induction writes generalizing record with
  | nil => exact ⟨record, rfl⟩
  | cons write rest ih =>
    obtain ⟨middle, first⟩ := set_own_type record (own write List.mem_cons_self)
    obtain ⟨written, later⟩ := ih middle fun other member =>
      own other (List.mem_cons_of_mem write member)
    refine ⟨written, ?_⟩
    rw [setAll_cons, first]
    exact later

end RecipeRecord

end Modpack
