import Modpack.Proofs.Records

/-!
# Writing fields by name

A record of the host answers a write with a record that holds the value, or with a refusal that says
which field it was and, if there is such a field, what it was given. All other fields and the nested
lists stay as they are. A value that is no whole number is held as it is. A whole number is held as
it is too, but for the fields that have room for 32 bits only: these take numbers that do not fit
into them, and hold the last 32 bits.
-/
namespace Modpack

/-! ## Values that are accepted -/

namespace FieldValue

/-- The whole number a value stands for. -/
def whole? : FieldValue → Option Int
  | .int number => some number
  | .id number => some number
  | _ => none

/-- An id in a value has 32 bits. -/
def FitsId (value : FieldValue) : Prop :=
  ∀ number, value = .id number → number < Whole.idLimit

/-- The narrowed number is the number exactly if this has 32 bits and no sign. -/
theorem narrow_eq_iff (number : Int) :
    (narrow number : Int) = number ↔ 0 ≤ number ∧ number < Whole.idLimit := by
  simp only [narrow, Whole.idLimit]
  omega

/-- What is held of a value that was accepted by a field, which may have room for 32 bits only. -/
inductive HeldAs (small : Bool) (value : FieldValue) : FieldValue → Prop
  /-- A value that is no whole number is held itself. -/
  | itself (plain : value.whole? = none) : HeldAs small value value
  /-- A whole number is held, or its last 32 bits. -/
  | whole {number : Int} {held : FieldValue} (given : value.whole? = some number)
      (kept : held.whole? = some (if small then (narrow number : Int) else number)) :
      HeldAs small value held
  /-- A whole number is held as a number that need not be whole. -/
  | rounded {number : Int} (given : value = .int number) :
      HeldAs small value (.float (Float.ofInt number))

/-- A value that is no whole number is held as it is. -/
theorem HeldAs.eq {small : Bool} {value held : FieldValue} (holds : value.HeldAs small held)
    (plain : value.whole? = none) : held = value := by
  cases holds with
  | itself => rfl
  | whole given =>
    rw [plain] at given
    cases given
  | rounded given =>
    rw [given] at plain
    cases plain

/-- A whole number that is held as one is held itself, but for a field with room for 32 bits, where
it must fit. -/
theorem HeldAs.whole?_eq_iff {small : Bool} {value held : FieldValue}
    (holds : value.HeldAs small held) {number : Int} (given : value.whole? = some number)
    (isWhole : held.whole?.isSome = true) :
    held.whole? = some number ↔ (small = true → 0 ≤ number ∧ number < Whole.idLimit) := by
  cases holds with
  | itself plain =>
    rw [plain] at given
    cases given
  | whole given' kept =>
    obtain rfl := Option.some.inj (given'.symm.trans given)
    rw [kept, Option.some_inj]
    cases small with
    | false => simp
    | true => simpa using narrow_eq_iff _
  | rounded => cases isWhole

/-! ## Conversions -/

/-- What a field makes of a value: it holds it, or refuses it and says so. -/
structure Converts {α : Type} (convert : FieldValue → String → Except HostError α) (small : Bool)
    (wrap : α → FieldValue) : Prop where
  /-- What is accepted is held. -/
  held : ∀ value field content, value.FitsId → convert value field = .ok content →
    value.HeldAs small (wrap content)
  /-- What is refused is named by its type. -/
  refused : ∀ value field error, convert value field = .error error →
    error = .fieldType field value.typeName

/-- Fields of whole numbers hold whole numbers. -/
theorem converts_toInt : Converts toInt false .int := by
  constructor
  · intro value field content _ ok
    cases value with
    | int number | id number =>
      obtain rfl := Except.ok.inj ok
      exact .whole rfl rfl
    | _ => cases ok
  · intro value field error failed
    cases value <;> cases failed <;> rfl

/-- Fields of string keys hold the last 32 bits of whole numbers. -/
theorem converts_toInt_narrow : Converts toInt true fun number => .int (narrow number) := by
  constructor
  · intro value field content _ ok
    cases value with
    | int number | id number =>
      obtain rfl := Except.ok.inj ok
      exact .whole rfl rfl
    | _ => cases ok
  · exact converts_toInt.refused

/-- Fields of ids hold the last 32 bits of whole numbers without a sign. -/
theorem converts_toId : Converts toId true .id := by
  constructor
  · intro value field content fits ok
    cases value with
    | int number =>
      rw [toId] at ok
      split at ok
      · obtain rfl := Except.ok.inj ok
        exact .whole rfl rfl
      · cases ok
    | id number =>
      obtain rfl := Except.ok.inj ok
      refine .whole rfl ?_
      rw [if_pos rfl, narrow_of_lt (fits number rfl)]
      rfl
    | _ => cases ok
  · intro value field error failed
    cases value with
    | int number =>
      rw [toId] at failed
      split at failed
      · cases failed
      · cases failed
        rfl
    | _ => cases failed <;> rfl

/-- Fields of numbers hold numbers, and whole numbers as such. -/
theorem converts_toFloat : Converts toFloat false .float := by
  constructor
  · intro value field content _ ok
    cases value with
    | float number =>
      obtain rfl := Except.ok.inj ok
      exact .itself rfl
    | int number =>
      obtain rfl := Except.ok.inj ok
      exact .rounded rfl
    | _ => cases ok
  · intro value field error failed
    cases value <;> cases failed <;> rfl

/-- A field that takes the values of one type, other than whole numbers, and no others. -/
theorem converts_plain {α : Type} {convert : FieldValue → String → Except HostError α}
    {wrap : α → FieldValue} (plain : ∀ content, (wrap content).whole? = none)
    (answers : ∀ value field,
      (∃ content, value = wrap content ∧ convert value field = .ok content) ∨
        convert value field = .error (.fieldType field value.typeName)) :
    Converts convert false wrap := by
  constructor
  · intro value field content _ ok
    rcases answers value field with ⟨content', rfl, accepted⟩ | refused
    · obtain rfl := Except.ok.inj (accepted.symm.trans ok)
      exact .itself (plain content')
    · rw [refused] at ok
      cases ok
  · intro value field error failed
    rcases answers value field with ⟨content, _, accepted⟩ | refused
    · rw [accepted] at failed
      cases failed
    · exact (Except.error.inj (refused.symm.trans failed)).symm

/-- Fields that are true or false hold truth values. -/
theorem converts_toBool : Converts toBool false .bool := by
  refine converts_plain (fun _ => rfl) fun value field => ?_
  cases value with
  | bool truth => exact .inl ⟨truth, rfl, rfl⟩
  | _ => exact .inr rfl

/-- Text fields hold texts. -/
theorem converts_toText : Converts toText false .text := by
  refine converts_plain (fun _ => rfl) fun value field => ?_
  cases value with
  | text written => exact .inl ⟨written, rfl, rfl⟩
  | _ => exact .inr rfl

/-- Picture fields hold pictures. -/
theorem converts_toAsset : Converts toAsset false .asset := by
  refine converts_plain (fun _ => rfl) fun value field => ?_
  cases value with
  | asset path => exact .inl ⟨path, rfl, rfl⟩
  | _ => exact .inr rfl

end FieldValue

/-! ## Fields of records -/

/-- What a write to a field comes to: the field holds the value, or refuses it and says so. -/
structure FieldWrite {ρ : Type} (result : Except HostError ρ) (read : ρ → Option FieldValue)
    (field : String) (small : Bool) (value : FieldValue) : Prop where
  /-- What is accepted is held. -/
  held : ∀ written, result = .ok written →
    ∃ held, read written = some held ∧ value.HeldAs small held
  /-- What is refused is named by its type. -/
  refused : ∀ error, result = .error error → error = .fieldType field value.typeName

/-- A field that stores what a conversion gives holds values as the conversion does. -/
theorem FieldValue.Converts.fieldWrite {α ρ : Type}
    {convert : FieldValue → String → Except HostError α} {small : Bool} {wrap : α → FieldValue}
    (converts : Converts convert small wrap) {value : FieldValue} (fits : value.FitsId)
    (field : String) {write : α → ρ} {read : ρ → Option FieldValue}
    (reads : ∀ content, read (write content) = some (wrap content)) :
    FieldWrite ((convert value field).map write) read field small value := by
  constructor
  · intro written accepted
    obtain ⟨content, ok, rfl⟩ := Except.eq_ok_of_map_eq_ok accepted
    exact ⟨wrap content, reads content, converts.held value field content fits ok⟩
  · intro error failed
    cases converted : convert value field with
    | ok content =>
      rw [converted] at failed
      cases failed
    | error cause =>
      rw [converted] at failed
      obtain rfl := Except.error.inj failed
      exact converts.refused value field cause converted

open FieldValue

/-- Whether a field of an item has room for 32 bits only. -/
def ItemField.isSmall : ItemField → Bool
  | .id | .titleKey | .descriptionKey => true
  | _ => false

/-- Whether a field of a recipe has room for 32 bits only. -/
def RecipeField.isSmall : RecipeField → Bool
  | .id | .resultItem => true
  | _ => false

/-- A field of an item holds what it accepts and names what it refuses. -/
theorem ItemRecord.fieldWrite_set (record : ItemRecord) (field : ItemField) {value : FieldValue}
    (fits : value.FitsId) :
    FieldWrite (record.set field value) (fun written => written.get? field) field.name
      field.isSmall value := by
  cases field with
  | id => exact converts_toId.fieldWrite fits _ fun _ => rfl
  | titleKey | descriptionKey => exact converts_toInt_narrow.fieldWrite fits _ fun _ => rfl
  | weight | capacity => exact converts_toFloat.fieldWrite fits _ fun _ => rfl
  | sellable | notForFire | stockable => exact converts_toBool.fieldWrite fits _ fun _ => rfl
  | icon => exact converts_toAsset.fieldWrite fits _ fun _ => rfl
  | category => exact converts_toText.fieldWrite fits _ fun _ => rfl
  | _ => exact converts_toInt.fieldWrite fits _ fun _ => rfl

/-- A field of a recipe holds what it accepts and names what it refuses. -/
theorem RecipeRecord.fieldWrite_set (record : RecipeRecord) (field : RecipeField)
    {value : FieldValue} (fits : value.FitsId) :
    FieldWrite (record.set field value) (fun written => some (written.get field)) field.name
      field.isSmall value := by
  cases field with
  | id | resultItem => exact converts_toId.fieldWrite fits _ fun _ => rfl
  | kind | title | bench => exact converts_toText.fieldWrite fits _ fun _ => rfl
  | active => exact converts_toBool.fieldWrite fits _ fun _ => rfl
  | _ => exact converts_toInt.fieldWrite fits _ fun _ => rfl

/-- An accepted write leaves the lists and all other fields of a recipe alone. -/
theorem RecipeRecord.set_frame {record written : RecipeRecord} {field : RecipeField}
    {value : FieldValue} (accepted : record.set field value = .ok written) :
    (∀ list, written.handle list = record.handle list) ∧
      ∀ other, other ≠ field → written.get other = record.get other := by
  cases field <;>
    (obtain ⟨content, _, rfl⟩ := Except.eq_ok_of_map_eq_ok accepted
     refine ⟨fun list => by cases list <;> rfl, fun other apart => ?_⟩
     cases other <;> first | rfl | exact absurd rfl apart)

/-- A field of an item has values of one type. -/
theorem ItemRecord.typeName_of_get? {record : ItemRecord} {field : ItemField} {value : FieldValue}
    (reads : record.get? field = some value) : value.typeName = field.valueType := by
  cases field with
  | icon =>
    obtain ⟨path, _, rfl⟩ := Option.map_eq_some_iff.1 reads
    rfl
  | _ =>
    obtain rfl := Option.some.inj reads
    rfl

/-- A field of a recipe has values of one type. -/
theorem RecipeRecord.typeName_get (record : RecipeRecord) (field : RecipeField) :
    (record.get field).typeName = field.valueType := by
  cases field <;> rfl

/-- Values of one type are both whole numbers or neither is. -/
theorem FieldValue.isSome_whole?_congr {left right : FieldValue}
    (same : left.typeName = right.typeName) : left.whole?.isSome = right.whole?.isSome := by
  cases left <;> cases right <;> first | rfl | simp [typeName] at same

/-! ## Records by name -/

section Named

variable {ρ : Type} [HostRecord ρ]

/-- The record after a write, which may be refused. -/
def afterWrite (record : ρ) (name : String) (value : FieldValue) : ρ :=
  match HostRecord.setNamed record name value with
  | .ok written => written
  | .error _ => record

/-- What a write to a record by name comes to. Some fields have room for 32 bits only. -/
structure Stores (small : List String) (record : ρ) (name : String) (value : FieldValue) :
    Prop where
  /-- Every other field reads as before. -/
  others : ∀ other, other ≠ name → HostRecord.getNamed? (afterWrite record name value) other =
    HostRecord.getNamed? record other
  /-- Every nested list is the one it was. -/
  lists : ∀ list, HostRecord.handleNamed (afterWrite record name value) list =
    HostRecord.handleNamed record list
  /-- A refused write leaves the record, and the refusal names the field, and what it was given if
  there is such a field. -/
  refused : ∀ error, HostRecord.setNamed record name value = .error error →
    afterWrite record name value = record ∧
      (error = .unknownField name ∨ error = .fieldType name value.typeName)
  /-- An accepted value that is no whole number reads back. -/
  plain : ∀ written, HostRecord.setNamed record name value = .ok written → value.whole? = none →
    HostRecord.getNamed? written name = some value
  /-- An accepted whole number reads back from a field of whole numbers, but for the fields with
  room for 32 bits only, where it must fit. -/
  whole : ∀ written, HostRecord.setNamed record name value = .ok written →
    ∀ number, value.whole? = some number →
    ∀ old, (HostRecord.getNamed? record name).bind whole? = some old →
      ((HostRecord.getNamed? written name).bind whole? = some number ↔
        (name ∈ small → 0 ≤ number ∧ number < Whole.idLimit))

/-- A refused write stores nothing, as it should, if the refusal names the field. -/
theorem stores_of_refused {small : List String} {record : ρ} {name : String} {value : FieldValue}
    {error : HostError} (refusal : HostRecord.setNamed record name value = .error error)
    (cause : error = .unknownField name ∨ error = .fieldType name value.typeName) :
    Stores small record name value := by
  have after : afterWrite record name value = record := by rw [afterWrite, refusal]
  have never {written : ρ} (ok : HostRecord.setNamed record name value = .ok written) : False := by
    rw [refusal] at ok
    cases ok
  refine ⟨fun _ _ => by rw [after], fun _ => by rw [after], fun other failed => ⟨after, ?_⟩,
    fun _ ok => (never ok).elim, fun _ ok => (never ok).elim⟩
  obtain rfl := Except.error.inj (refusal.symm.trans failed)
  exact cause

variable (ρ)

/-- The fields of a kind of records, with what is known of reading and writing them. -/
structure FieldTable (φ : Type) where
  /-- The field of a name. -/
  ofName? : String → Option φ
  /-- The name of a field. -/
  name : φ → String
  /-- The value of a field. -/
  read : ρ → φ → Option FieldValue
  /-- Write a field. -/
  write : ρ → φ → FieldValue → Except HostError ρ
  /-- The names of the fields with room for 32 bits only. -/
  small : List String
  /-- A field that is found by a name has the name. -/
  named : ∀ {text field}, ofName? text = some field → name field = text
  /-- Reading by name is reading the field of the name. -/
  getNamed?_eq : ∀ record text, HostRecord.getNamed? record text = (ofName? text).bind (read record)
  /-- Writing by name is writing the field of the name. -/
  setNamed_eq : ∀ record text value, HostRecord.setNamed record text value =
    match ofName? text with
    | some field => write record field value
    | none => .error (.unknownField text)
  /-- A field has values of one type. -/
  typed : ∀ {record record' field value value'}, read record field = some value →
    read record' field = some value' → value.typeName = value'.typeName
  /-- An accepted write leaves every other field. -/
  others : ∀ {record written field value}, write record field value = .ok written →
    ∀ other, other ≠ field → read written other = read record other
  /-- An accepted write leaves every nested list. -/
  lists : ∀ {record written field value}, write record field value = .ok written →
    ∀ list, HostRecord.handleNamed written list = HostRecord.handleNamed record list
  /-- A field holds what it accepts and names what it refuses. -/
  writes : ∀ record field {value}, value.FitsId →
    FieldWrite (write record field value) (fun written => read written field) (name field)
      (name field ∈ small) value

variable {ρ}

/-- Records store what they accept if their fields do. -/
theorem FieldTable.stores {φ : Type} (table : FieldTable ρ φ) (record : ρ) (name : String)
    {value : FieldValue} (fits : value.FitsId) : Stores table.small record name value := by
  cases found : table.ofName? name with
  | none =>
    refine stores_of_refused ?_ (.inl rfl)
    rw [table.setNamed_eq, found]
  | some field =>
    have isNamed := table.named found
    have writes := table.writes record field fits
    have answer : HostRecord.setNamed record name value = table.write record field value := by
      rw [table.setNamed_eq, found]
    have reads (record : ρ) : HostRecord.getNamed? record name = table.read record field := by
      rw [table.getNamed?_eq, found]
      rfl
    cases result : table.write record field value with
    | error cause =>
      refine stores_of_refused (answer.trans result) (.inr ?_)
      rw [← isNamed]
      exact writes.refused cause result
    | ok after =>
      rw [result] at answer
      have after_eq : afterWrite record name value = after := by rw [afterWrite, answer]
      obtain ⟨held, isHeld, holds⟩ := writes.held after result
      refine ⟨fun other apart => ?_, fun list => ?_, fun error failed => ?_,
        fun written ok plain => ?_, fun written ok number given old before => ?_⟩
      · rw [after_eq, table.getNamed?_eq, table.getNamed?_eq]
        cases otherFound : table.ofName? other with
        | none => rfl
        | some otherField =>
          refine table.others result otherField fun same => apart ?_
          rw [← table.named otherFound, same, isNamed]
      · rw [after_eq]
        exact table.lists result list
      · rw [answer] at failed
        cases failed
      · obtain rfl := Except.ok.inj (answer.symm.trans ok)
        rw [reads, isHeld, holds.eq plain]
      · obtain rfl := Except.ok.inj (answer.symm.trans ok)
        rw [reads] at before ⊢
        obtain ⟨was, isWas, wasWhole⟩ := Option.bind_eq_some_iff.1 before
        have isWhole : held.whole?.isSome = true := by
          rw [isSome_whole?_congr (table.typed isHeld isWas), wasWhole]
          rfl
        rw [isHeld, Option.bind_some, holds.whole?_eq_iff given isWhole, isNamed, decide_eq_true_eq]

end Named

/-- The fields of items. -/
def itemFields : FieldTable ItemRecord ItemField where
  ofName? := ItemField.ofName?
  name := ItemField.name
  read := ItemRecord.get?
  write := ItemRecord.set
  small := ["id", "title_key", "description_key"]
  named found := by
    rw [ItemField.ofName?] at found
    have same := List.find?_some found
    exact beq_iff_eq.1 same
  getNamed?_eq _ _ := rfl
  setNamed_eq record text value := by
    change ItemRecord.setNamed record text value = _
    rw [ItemRecord.setNamed]
    cases ItemField.ofName? text <;> rfl
  typed first second := (ItemRecord.typeName_of_get? first).trans
    (ItemRecord.typeName_of_get? second).symm
  others accepted := (ItemRecord.set_frame accepted).2.2
  lists accepted list := by
    have same := funext (ItemRecord.set_frame accepted).2.1
    exact congrArg (fun handle => (ItemRecord.listNamed list).map handle) same
  writes record field value fits := by
    have small : decide (field.name ∈ ["id", "title_key", "description_key"]) = field.isSmall := by
      cases field <;> decide
    rw [small]
    exact record.fieldWrite_set field fits

/-- The fields of recipes. -/
def recipeFields : FieldTable RecipeRecord RecipeField where
  ofName? := RecipeField.ofName?
  name := RecipeField.name
  read record field := some (record.get field)
  write := RecipeRecord.set
  small := ["id", "result_item"]
  named found := by
    rw [RecipeField.ofName?] at found
    have same := List.find?_some found
    exact beq_iff_eq.1 same
  getNamed?_eq _ _ := rfl
  setNamed_eq record text value := by
    change RecipeRecord.setNamed record text value = _
    rw [RecipeRecord.setNamed]
    cases RecipeField.ofName? text <;> rfl
  typed first second := by
    rw [← Option.some.inj first, ← Option.some.inj second, RecipeRecord.typeName_get,
      RecipeRecord.typeName_get]
  others accepted other apart := congrArg some ((RecipeRecord.set_frame accepted).2 other apart)
  lists accepted list := by
    have same := funext (RecipeRecord.set_frame accepted).1
    exact congrArg (fun handle => (RecipeRecord.listNamed list).map handle) same
  writes record field value fits := by
    have small : decide (field.name ∈ ["id", "result_item"]) = field.isSmall := by
      cases field <;> decide
    rw [small]
    exact record.fieldWrite_set field fits

/-- Items and recipes store what they accept: whatever is written to whichever name, all else stays,
a refused write changes nothing, and an accepted value reads back, unless it is a whole number that
does not fit into a field with room for 32 bits. The shape of an item never changes. -/
theorem records_store_what_they_accept (item : ItemRecord) (recipe : RecipeRecord) (name : String)
    {value : FieldValue} (fits : value.FitsId) :
    Stores ["id", "title_key", "description_key"] item name value ∧
      (afterWrite item name value).variant = item.variant ∧
      Stores ["id", "result_item"] recipe name value := by
  refine ⟨itemFields.stores item name fits, ?_, recipeFields.stores recipe name fits⟩
  rw [afterWrite]
  cases result : HostRecord.setNamed item name value with
  | error cause => rfl
  | ok written =>
    rw [itemFields.setNamed_eq] at result
    cases found : itemFields.ofName? name with
    | none =>
      rw [found] at result
      cases result
    | some field =>
      rw [found] at result
      exact (ItemRecord.set_frame result).1

/-- A new item record. -/
def crate : ItemRecord :=
  (ItemRecord.create .empty 7 .other).1

/-- A new recipe record. -/
def packing : RecipeRecord :=
  (RecipeRecord.create .empty 8 RecipeRecord.itemKind).1

/-- The largest title key is kept, and the price stays as it was. -/
theorem crate_keeps_title_key :
    FieldValue.FitsId (.int 4294967295) ∧
      ∃ written, HostRecord.setNamed crate "title_key" (.int 4294967295) = .ok written ∧
        (HostRecord.getNamed? written "title_key").bind whole? = some 4294967295 ∧
        HostRecord.getNamed? (afterWrite crate "title_key" (.int 4294967295)) "price" =
          HostRecord.getNamed? crate "price" := by
  have fits : FieldValue.FitsId (.int 4294967295) := fun _ isId => nomatch isId
  obtain ⟨stores, _, _⟩ := records_store_what_they_accept crate packing "title_key" fits
  have room : (0 : Int) ≤ 4294967295 ∧ (4294967295 : Int) < Whole.idLimit := by decide
  exact ⟨fits, _, rfl, (stores.whole _ rfl _ rfl 7 rfl).2 fun _ => room,
    stores.others "price" (by decide)⟩

/-- Numbers that do not fit are accepted, and others are read: an id with one bit too many, and a
title key with a sign. -/
theorem crate_cuts_numbers :
    (∃ written, HostRecord.setNamed crate "id" (.int 4294967297) = .ok written ∧
      HostRecord.getNamed? written "id" = some (.id 1)) ∧
    ∃ written, HostRecord.setNamed crate "title_key" (.int (-1)) = .ok written ∧
      HostRecord.getNamed? written "title_key" = some (.int 4294967295) :=
  ⟨⟨_, rfl, rfl⟩, _, rfl, rfl⟩

end Modpack
