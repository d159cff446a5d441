import Mathlib.Data.List.Nodup
import Mathlib.Data.List.Pairwise
import Modpack.Proofs.Forms

/-!
# Forms of records

The form of a record is told from its slots, one for each field, with the names the field answers
to, its default, and the form of what it holds. A record is written with every field under its own
name. It is restated by any steps of these: entries change their order, an entry of an unknown name
comes or goes, a field with its default comes or goes, a field takes another of its names, or what
is written for a field is restated.

A reader tells the form of a record (`Form.record_tells`) when it goes by the slots (`GoesBy`): no
name belongs to two of them, each of them is sound, and the reader fills them one by one. Nothing
else is asked of it, since what it makes of fields is what they state (`stated?`), slot by slot.
-/
namespace Modpack.Document

variable {ρ : Type}

/-- A field of a record, with what it holds. -/
structure Slot (ρ : Type) where
  /-- Its own name. -/
  name : String
  /-- The other names it may be written under. -/
  aliases : List String
  /-- What it holds. -/
  Content : Type
  /-- How this is written. -/
  form : Form Content
  /-- How this is read. -/
  read? : Value → Option Content
  /-- What it holds when it is not written. A field without a default must be written. -/
  default? : Option Content
  /-- What it holds in a record. -/
  content : ρ → Content

namespace Slot

/-- The field of a slot. -/
def field (slot : Slot ρ) : Field := ⟨slot.name, slot.aliases⟩

/-- The names a slot answers to. -/
def names (slot : Slot ρ) : List String := slot.name :: slot.aliases

/-- What a slot takes from what is written for it, if anything is. -/
def take? (slot : Slot ρ) : Option Value → Option slot.Content
  | some value => slot.read? value
  | none => slot.default?

/-- What a slot takes from the fields found. -/
def of? (slot : Slot ρ) (found : Found) : Option slot.Content :=
  match slot.default? with
  | some default => withDefault? default slot.read? found slot.name
  | none => required? slot.read? found slot.name

/-- The entry that is written for a slot of a record. -/
def entry (slot : Slot ρ) (record : ρ) : String × Value :=
  (slot.name, slot.form.write (slot.content record))

/-- What a slot holds in a record can be written. -/
def Fits (slot : Slot ρ) (record : ρ) : Prop := slot.form.Fits (slot.content record)

/-- A slot is filled with what a record holds. -/
def Holds (slot : Slot ρ) (found : Found) (record : ρ) : Prop :=
  slot.of? found = some (slot.content record)

/-- A slot is sound if its reader tells its form, and its default can be written. -/
structure Sound (slot : Slot ρ) : Prop where
  /-- The reader tells the form. -/
  tells : slot.form.Tells slot.read?
  /-- The default can be written. -/
  fits : ∀ default ∈ slot.default?, slot.form.Fits default

/-! ### Slots of a table

A table of slots is made of the three that follow. Each notion of a slot comes down to the parts it
is made of, which lets `simp` go through a table.
-/

section Table

variable {α : Type} {found : Found} {record : ρ} (name : String) (form : Form α)
  (read? : Value → Option α) (default : α) (content : ρ → α) (slot : Slot ρ) (other : String)

/-- A field that must be written. -/
def required : Slot ρ := ⟨name, [], α, form, read?, none, content⟩

/-- A field with a default. -/
def optional : Slot ρ := ⟨name, [], α, form, read?, some default, content⟩

/-- A field that answers to one more name. -/
def orNamed : Slot ρ := { slot with aliases := [other] }

@[simp] theorem names_required : (required name form read? content).names = [name] := rfl

@[simp] theorem names_optional : (optional name form read? default content).names = [name] := rfl

@[simp] theorem names_orNamed : (slot.orNamed other).names = [slot.name, other] := rfl

@[simp] theorem name_required : (required name form read? content).name = name := rfl

@[simp] theorem name_optional : (optional name form read? default content).name = name := rfl

@[simp] theorem fits_required :
    (required name form read? content).Fits record ↔ form.Fits (content record) :=
  Iff.rfl

@[simp] theorem fits_optional :
    (optional name form read? default content).Fits record ↔ form.Fits (content record) :=
  Iff.rfl

@[simp] theorem fits_orNamed : (slot.orNamed other).Fits record ↔ slot.Fits record := Iff.rfl

@[simp] theorem holds_required : (required name form read? content).Holds found record ↔
    required? read? found name = some (content record) :=
  Iff.rfl

@[simp] theorem holds_optional : (optional name form read? default content).Holds found record ↔
    withDefault? default read? found name = some (content record) :=
  Iff.rfl

@[simp] theorem holds_orNamed :
    (slot.orNamed other).Holds found record ↔ slot.Holds found record := by
  obtain ⟨_, _, _, _, _, default?, _⟩ := slot
  cases default? <;> exact Iff.rfl

@[simp] theorem sound_required :
    (required name form read? content).Sound ↔ form.Tells read? :=
  ⟨Sound.tells, fun tells => ⟨tells, nofun⟩⟩

@[simp] theorem sound_optional : (optional name form read? default content).Sound ↔
    form.Tells read? ∧ form.Fits default :=
  ⟨fun sound => ⟨sound.tells, sound.fits default rfl⟩,
    fun both => ⟨both.1, fun _ isDefault => Option.some.inj isDefault ▸ both.2⟩⟩

@[simp] theorem sound_orNamed : (slot.orNamed other).Sound ↔ slot.Sound :=
  ⟨fun sound => ⟨sound.tells, sound.fits⟩, fun sound => ⟨sound.tells, sound.fits⟩⟩

end Table

/-! ### Reading a slot -/

/-- A slot answers to its names. -/
theorem answersTo_iff (slot : Slot ρ) (name : String) :
    slot.field.answersTo name = true ↔ name ∈ slot.names := by
  simp [Field.answersTo, field, names]

/-- What a slot takes is told by what is found under its name. -/
theorem of?_eq (slot : Slot ρ) (found : Found) :
    slot.of? found = slot.take? (found.lookup slot.name) := by
  rw [of?]
  cases default : slot.default? <;> cases written : found.lookup slot.name <;>
    simp [withDefault?, required?, take?, default, written]

end Slot

/-! ## Filling slots -/

section Slots

variable {slots : List (Slot ρ)} {slot : Slot ρ} {name : String} {value : Value}
  {fields : List (String × Value)} {record : ρ}

/-- The fields of slots. -/
def schemaOf (slots : List (Slot ρ)) : List Field := slots.map Slot.field

/-- No name belongs to two slots, or twice to one. -/
def Apart (slots : List (Slot ρ)) : Prop := (slots.flatMap Slot.names).Nodup

/-- Fields tell a record: none is written twice, and each slot takes what the record holds. -/
def Told (slots : List (Slot ρ)) (fields : List (String × Value)) (record : ρ) : Prop :=
  ∃ stated, stated? (schemaOf slots) fields = some stated ∧
    ∀ slot ∈ slots, slot.take? (stated slot.name) = some (slot.content record)

/-- A reader fills slots if it reads the records that fields tell. -/
def Fills (slots : List (Slot ρ)) (read? : Value → Option ρ) : Prop :=
  ∀ fields record, read? (.record fields) = some record ↔ Told slots fields record

/-- A reader that looks at what is found for each slot fills the slots. -/
theorem fills_of_found {read? : Value → Option ρ} {ofFound? : Found → Option ρ}
    (named : ∀ fields, read? (.record fields) = (named? (schemaOf slots) fields).bind ofFound?)
    (filled : ∀ found record, ofFound? found = some record ↔
      ∀ slot ∈ slots, slot.Holds found record) :
    Fills slots read? := by
  intro fields record
  rw [named, Option.bind_eq_some_iff]
  simp only [filled, Slot.Holds, Slot.of?_eq, Told, stated?, Option.map_eq_some_iff]
  constructor
  · rintro ⟨found, isFound, holds⟩
    exact ⟨_, ⟨found, isFound, rfl⟩, holds⟩
  · rintro ⟨_, ⟨found, isFound, rfl⟩, holds⟩
    exact ⟨found, isFound, holds⟩

/-- Slots that answer to one name are the same slot. -/
theorem Apart.eq_of_mem_names (apart : Apart slots) {other : Slot ρ} (member : slot ∈ slots)
    (memberToo : other ∈ slots) (answers : name ∈ slot.names) (answersToo : name ∈ other.names) :
    slot = other := by
  have disjoint := (List.nodup_flatMap.1 apart).2
  have : Std.Symm (Function.onFun List.Disjoint (@Slot.names ρ)) :=
    ⟨fun _ _ disjoint _ one another => disjoint another one⟩
  by_contra different
  exact disjoint.forall member memberToo different answers answersToo

/-- Slots of one name are the same slot. -/
theorem Apart.eq_of_name_eq (apart : Apart slots) {other : Slot ρ} (member : slot ∈ slots)
    (memberToo : other ∈ slots) (same : slot.name = other.name) : slot = other := by
  have answers : slot.name ∈ slot.names := List.mem_cons_self
  have answersToo : other.name ∈ other.names := List.mem_cons_self
  exact apart.eq_of_mem_names member memberToo answers (same ▸ answersToo)

/-- A slot whose field is found for a name answers to it. -/
theorem mem_names_of_find? (found : (schemaOf slots).find? (·.answersTo name) = some slot.field) :
    name ∈ slot.names := by
  have answers := List.find?_some found
  exact (slot.answersTo_iff name).1 answers

/-- The field that answers to a name of a slot is the field of the slot. -/
theorem Apart.find?_eq (apart : Apart slots) (member : slot ∈ slots) (answers : name ∈ slot.names) :
    (schemaOf slots).find? (·.answersTo name) = some slot.field := by
  cases found : (schemaOf slots).find? (·.answersTo name) with
  | none =>
    have silent := List.find?_eq_none.1 found slot.field (List.mem_map_of_mem member)
    exact absurd ((slot.answersTo_iff name).2 answers) silent
  | some field =>
    obtain ⟨other, memberToo, rfl⟩ := List.mem_map.1 (List.mem_of_find?_eq_some found)
    have isOther := apart.eq_of_mem_names member memberToo answers (mem_names_of_find? found)
    rw [isOther]

/-- No field answers to a name that no slot has. -/
theorem find?_eq_none (unknown : ∀ slot ∈ slots, name ∉ slot.names) :
    (schemaOf slots).find? (·.answersTo name) = none := by
  refine List.find?_eq_none.2 fun field member answers => ?_
  obtain ⟨slot, isSlot, rfl⟩ := List.mem_map.1 member
  exact unknown slot isSlot ((slot.answersTo_iff name).1 answers)

/-! ## What entries tell -/

/-- Fields that state of every slot what other fields state tell the same record. -/
theorem told_congr {other : List (String × Value)} {stated stated' : String → Option Value}
    (states : stated? (schemaOf slots) fields = some stated)
    (statesToo : stated? (schemaOf slots) other = some stated')
    (alike : ∀ slot ∈ slots, slot.take? (stated slot.name) = slot.take? (stated' slot.name)) :
    Told slots fields record ↔ Told slots other record := by
  rw [Told, Told, states, statesToo]
  simp only [Option.some.injEq, exists_eq_left']
  exact forall₂_congr fun slot member => by rw [alike slot member]

/-- What is stated after an entry for a slot is added. -/
theorem Apart.stated?_cons (apart : Apart slots) (member : slot ∈ slots)
    (answers : name ∈ slot.names) :
    stated? (schemaOf slots) ((name, value) :: fields) =
      (stated? (schemaOf slots) fields).bind fun stated =>
        if (stated slot.name).isSome then none
        else some (Function.update stated slot.name (some value)) :=
  stated?_known (apart.find?_eq member answers)

/-- An entry for a slot states its value, and the entries after it state none. -/
theorem Apart.stated_of_cons (apart : Apart slots) (member : slot ∈ slots)
    (answers : name ∈ slot.names) {stated : String → Option Value}
    (states : stated? (schemaOf slots) ((name, value) :: fields) = some stated) :
    stated slot.name = some value ∧
      ∃ before, stated? (schemaOf slots) fields = some before ∧ before slot.name = none := by
  rw [apart.stated?_cons member answers, Option.bind_eq_some_iff] at states
  obtain ⟨before, statesBefore, added⟩ := states
  cases written : before slot.name with
  | some other => simp [written] at added
  | none =>
    rw [written, if_neg (by simp), Option.some.injEq] at added
    refine ⟨?_, before, statesBefore, written⟩
    rw [← added, Function.update_self]

/-- What is stated of one slot is taken by this slot alone. -/
theorem Apart.take?_update (apart : Apart slots) (member : slot ∈ slots)
    {stated : String → Option Value} {written : Option Value}
    (alike : slot.take? written = slot.take? (stated slot.name)) :
    ∀ other ∈ slots, other.take? (Function.update stated slot.name written other.name) =
      other.take? (stated other.name) := by
  intro other memberToo
  by_cases same : other.name = slot.name
  · obtain rfl := apart.eq_of_name_eq memberToo member same
    rw [Function.update_self, alike]
  · rw [Function.update_of_ne same]

/-- Entries tell the same when one for a slot gives way to one that the slot reads alike. -/
theorem Apart.told_cons_congr (apart : Apart slots) (member : slot ∈ slots) {other : String}
    (answers : name ∈ slot.names) (answersToo : other ∈ slot.names) {again : Value}
    (alike : slot.read? value = slot.read? again) :
    Told slots ((name, value) :: fields) record ↔ Told slots ((other, again) :: fields) record := by
  have first : stated? (schemaOf slots) ((name, value) :: fields) = _ :=
    apart.stated?_cons member answers
  have second : stated? (schemaOf slots) ((other, again) :: fields) = _ :=
    apart.stated?_cons member answersToo
  cases states : stated? (schemaOf slots) fields with
  | none =>
    rw [states, Option.bind_none] at first second
    rw [Told, Told, first, second]
  | some stated =>
    rw [states, Option.bind_some] at first second
    by_cases written : (stated slot.name).isSome
    · rw [if_pos written] at first second
      rw [Told, Told, first, second]
    · rw [if_neg written] at first second
      rw [← Function.update_idem (a := slot.name) (some value) (some again) stated] at second
      refine (told_congr second first (apart.take?_update member ?_)).symm
      rw [Function.update_self]
      exact alike.symm

/-- A field with its default tells nothing. -/
theorem Apart.told_default (apart : Apart slots) (member : slot ∈ slots)
    (absent : ∀ entry ∈ fields, entry.1 ∉ slot.names)
    (isDefault : slot.read? value = slot.default?) :
    Told slots ((slot.name, value) :: fields) record ↔ Told slots fields record := by
  have added : stated? (schemaOf slots) ((slot.name, value) :: fields) = _ :=
    apart.stated?_cons member List.mem_cons_self
  cases states : stated? (schemaOf slots) fields with
  | none =>
    rw [states, Option.bind_none] at added
    rw [Told, Told, added, states]
  | some stated =>
    have unwritten : stated slot.name = none := by
      refine stated?_absent states fun entry inside field answering same => ?_
      obtain ⟨other, memberToo, rfl⟩ := List.mem_map.1 (List.mem_of_find?_eq_some answering)
      obtain rfl := apart.eq_of_name_eq memberToo member same
      exact absent entry inside (mem_names_of_find? answering)
    rw [states, Option.bind_some, unwritten, if_neg (by simp)] at added
    refine told_congr added states (apart.take?_update member ?_)
    rw [unwritten]
    exact isDefault

/-- Each slot written once tells what is written. -/
theorem Apart.told_written (apart : Apart slots)
    (written : ∀ slot ∈ slots, slot.read? (slot.entry record).2 = some (slot.content record)) :
    Told slots (slots.map (·.entry record)) record := by
  have once : ((slots.map (·.entry record)).map Prod.fst).Nodup := by
    rw [List.map_map]
    refine List.pairwise_map.2 ((List.nodup_flatMap.1 apart).2.imp ?_)
    intro one other disjoint same
    have isSame : one.name = other.name := same
    exact disjoint (a := one.name) List.mem_cons_self (isSame ▸ List.mem_cons_self)
  refine ⟨_, stated?_of_own (fun entry member => ?_) once, fun slot member => ?_⟩
  · obtain ⟨slot, isSlot, rfl⟩ := List.mem_map.1 member
    change ((schemaOf slots).find? (·.answersTo slot.name)).map _ = _
    rw [apart.find?_eq isSlot List.mem_cons_self]
    rfl
  · have isFound : (slots.map (·.entry record)).lookup slot.name = some (slot.entry record).2 :=
      (lookup_eq_some_iff_mem once).2 (List.mem_map_of_mem member)
    rw [isFound]
    exact written slot member

end Slots

/-! ## The form of a record -/

/-- Entries that restate others. -/
inductive Restated (slots : List (Slot ρ)) :
    List (String × Value) → List (String × Value) → Prop where
  /-- Either restates the other. -/
  | symm {one other} : Restated slots one other → Restated slots other one
  /-- One after another. -/
  | trans {one other third} : Restated slots one other → Restated slots other third →
      Restated slots one third
  /-- Entries may stand in any order. -/
  | permuted {one other} : one.Perm other → Restated slots one other
  /-- An entry may be added under a name that no field answers to. -/
  | unknown {name value fields} : (∀ slot ∈ slots, name ∉ slot.names) →
      Restated slots ((name, value) :: fields) fields
  /-- A field with its default may be left out. -/
  | leftOut {slot fields default} : slot ∈ slots → slot.default? = some default →
      (∀ entry ∈ fields, entry.1 ∉ slot.names) →
      Restated slots ((slot.name, slot.form.write default) :: fields) fields
  /-- A field may be written under any name it answers to. -/
  | renamed {slot name other value fields} : slot ∈ slots → name ∈ slot.names →
      other ∈ slot.names → Restated slots ((name, value) :: fields) ((other, value) :: fields)
  /-- What is written for a field may be restated. -/
  | within {slot name value other fields} : slot ∈ slots → name ∈ slot.names →
      slot.form.Restates value other →
      Restated slots ((name, value) :: fields) ((name, other) :: fields)

/-- Entries that hold a field twice. -/
inductive Doubled (slots : List (Slot ρ)) (fields : List (String × Value)) : Prop where
  /-- Two entries are for one field. -/
  | here {slot name other value again rest} : slot ∈ slots → name ∈ slot.names →
      other ∈ slot.names → fields.Perm ((name, value) :: (other, again) :: rest) →
      Doubled slots fields
  /-- What is written for a field holds a field twice. -/
  | within {slot name value} : slot ∈ slots → name ∈ slot.names → (name, value) ∈ fields →
      slot.form.Twice value → Doubled slots fields

/-- A record of named fields. -/
def Form.record (slots : List (Slot ρ)) : Form ρ where
  write record := .record (slots.map (·.entry record))
  Fits record := ∀ slot ∈ slots, slot.Fits record
  Restates value other := ∃ one another, Restated slots one another ∧ value = .record one ∧
    other = .record another
  Twice value := ∃ fields, Doubled slots fields ∧ value = .record fields

@[simp] theorem Form.neverNull_record (slots : List (Slot ρ)) : (Form.record slots).NeverNull :=
  fun _ => nofun

section Slots

variable {slots : List (Slot ρ)} {fields : List (String × Value)} {record : ρ}

/-- Entries that restate others tell the same record. -/
theorem Restated.told_iff (apart : Apart slots) (sound : ∀ slot ∈ slots, slot.Sound)
    {one other : List (String × Value)} (restated : Restated slots one other) :
    Told slots one record ↔ Told slots other record := by
  induction restated with
  | symm _ ih => exact ih.symm
  | trans _ _ first second => exact first.trans second
  | permuted permuted => rw [Told, Told, stated?_perm permuted]
  | unknown unknown => rw [Told, Told, stated?_unknown (find?_eq_none unknown)]
  | leftOut member isDefault absent =>
    refine apart.told_default member absent ?_
    rw [isDefault]
    exact (sound _ member).tells.written _ ((sound _ member).fits _ isDefault)
  | renamed member answers answersToo => exact apart.told_cons_congr member answers answersToo rfl
  | within member answers restates =>
    exact apart.told_cons_congr member answers answers ((sound _ member).tells.restated restates)

/-- Entries that hold a field twice tell no record. -/
theorem Doubled.not_told (apart : Apart slots) (sound : ∀ slot ∈ slots, slot.Sound)
    (doubled : Doubled slots fields) : ¬ Told slots fields record := by
  rintro ⟨stated, states, taken⟩
  cases doubled with
  | here member answers answersToo permuted =>
    rw [stated?_perm permuted] at states
    obtain ⟨_, before, statesBefore, unwritten⟩ := apart.stated_of_cons member answers states
    have written := (apart.stated_of_cons member answersToo statesBefore).1
    rw [unwritten] at written
    cases written
  | @within slot name value member answers inside twice =>
    obtain ⟨before, after, rfl⟩ := List.append_of_mem inside
    rw [stated?_perm List.perm_middle] at states
    have written := (apart.stated_of_cons member answers states).1
    have refused : slot.read? value = none := (sound slot member).tells.twice twice
    have isTaken := taken slot member
    rw [written, Slot.take?, refused] at isTaken
    cases isTaken

/-- A reader of records goes by slots. -/
structure GoesBy (slots : List (Slot ρ)) (read? : Value → Option ρ) : Prop where
  /-- No name belongs to two slots. -/
  apart : Apart slots
  /-- The slots are sound. -/
  sound : ∀ slot ∈ slots, slot.Sound
  /-- The reader fills the slots. -/
  fills : Fills slots read?

/-- A reader that goes by slots tells the form of their record. -/
theorem Form.record_tells {read? : Value → Option ρ} (goesBy : GoesBy slots read?) :
    (Form.record slots).Tells read? where
  written record fits := by
    refine (goesBy.fills _ record).2 (goesBy.apart.told_written fun slot member => ?_)
    exact (goesBy.sound slot member).tells.written _ (fits slot member)
  restated := by
    rintro _ _ ⟨one, other, restated, rfl, rfl⟩
    ext record
    rw [goesBy.fills, goesBy.fills, restated.told_iff goesBy.apart goesBy.sound]
  twice := by
    rintro _ ⟨fields, doubled, rfl⟩
    rw [Option.eq_none_iff_forall_ne_some]
    intro record isRecord
    exact doubled.not_told goesBy.apart goesBy.sound ((goesBy.fills fields record).1 isRecord)

end Slots

end Modpack.Document
