import Modpack.Definition.Item
import Modpack.Definition.ItemRef
import Modpack.Proofs.NamedFields

/-!
# Forms of documents

A form says how a content is written in a document: what is written for it, which other documents
restate one, and which hold a field of a record twice. It is told from the names and defaults of
fields alone, without a reader. A reader of the content is faithful to the form (`Form.Tells`) if it
reads a content from what is written for it, reads the same from a document and its restatements,
and refuses every document that holds a field twice.

The form of a record comes from its slots, one for each field. A reader of a record tells its form
when it fills the slots one by one, each by a reader that tells the form of the slot
(`Form.record_tells`). Records stand in lists and in slots of other records, so that what holds of
a record holds at every level of a document.
-/
namespace Modpack.Document

/-- How a content is written in a document. -/
structure Form (α : Type) where
  /-- What is written for a content. -/
  write : α → Value
  /-- The contents that can be written. -/
  Fits : α → Prop
  /-- One document says what the other says. -/
  Restates : Value → Value → Prop
  /-- A field of a record stands twice in the document. -/
  Twice : Value → Prop

namespace Form

variable {α : Type}

/-- A reader is faithful to a form. -/
structure Tells (form : Form α) (read? : Value → Option α) : Prop where
  /-- It reads a content from what is written for it. -/
  written : ∀ content, form.Fits content → read? (form.write content) = some content
  /-- It reads the same from a document and a restatement of it. -/
  restated : ∀ {value other}, form.Restates value other → read? value = read? other
  /-- It refuses a document that holds a field twice. -/
  twice : ∀ {value}, form.Twice value → read? value = none

/-! ## Plain contents -/

/-- A content with one way to write it. -/
def plain (write : α → Value) (Fits : α → Prop) : Form α :=
  ⟨write, Fits, fun _ _ => False, fun _ => False⟩

/-- Any text. -/
def text : Form String := plain .text fun _ => True

/-- True or false. -/
def bool : Form Bool := plain .bool fun _ => True

/-- A whole number of 64 bits. -/
def wide : Form Int := plain .int fun value => Whole.minWide ≤ value ∧ value ≤ Whole.maxWide

/-- A whole number of 32 bits. -/
def count : Form Int := plain .int fun value => Whole.minCount ≤ value ∧ value ≤ Whole.maxCount

/-- The id of a record. -/
def id : Form Nat := plain (fun value => .int value) fun value => value < Whole.idLimit

/-- A number. -/
def float : Form Float := plain .float fun _ => True

/-- A reference to an item, as a number or as a text. -/
def reference : Form ItemRef where
  write
    | .id number => .int number
    | .name text => .text text
  Fits
    | .id number => number < Whole.idLimit
    | .name _ => True
  Restates _ _ := False
  Twice _ := False

/-- A kind of item, by its name. -/
def itemKind : Form ItemKind := plain (fun kind => .text kind.name) fun _ => True

/-- The change of an effect, as a text; the digits of a whole number of 64 bits may stand as the
number. -/
def change : Form String where
  write := .text
  Fits _ := True
  Restates value other := ∃ number, (Whole.minWide ≤ number ∧ number ≤ Whole.maxWide) ∧
    value = .text (Whole.text number) ∧ other = .int number
  Twice _ := False

@[simp] theorem fits_text (value : String) : text.Fits value := trivial

@[simp] theorem fits_bool (value : Bool) : bool.Fits value := trivial

@[simp] theorem fits_wide (value : Int) :
    wide.Fits value ↔ Whole.minWide ≤ value ∧ value ≤ Whole.maxWide :=
  Iff.rfl

@[simp] theorem fits_count (value : Int) :
    count.Fits value ↔ Whole.minCount ≤ value ∧ value ≤ Whole.maxCount :=
  Iff.rfl

@[simp] theorem fits_id (value : Nat) : id.Fits value ↔ value < Whole.idLimit := Iff.rfl

@[simp] theorem fits_float (value : Float) : float.Fits value := trivial

@[simp] theorem fits_itemKind (kind : ItemKind) : itemKind.Fits kind := trivial

@[simp] theorem fits_change (value : String) : change.Fits value := trivial

/-- A reader that reads a content of one form from what is written for it is faithful. -/
theorem plain_tells {write : α → Value} {Fits : α → Prop} {read? : Value → Option α}
    (written : ∀ content, Fits content → read? (write content) = some content) :
    (plain write Fits).Tells read? :=
  ⟨written, False.elim, False.elim⟩

/-- Texts are read as they are written. -/
@[simp] theorem text_tells : text.Tells text? := plain_tells fun _ _ => rfl

/-- Truth values are read as they are written. -/
@[simp] theorem bool_tells : bool.Tells bool? := plain_tells fun _ _ => rfl

/-- Whole numbers of 64 bits are read as they are written. -/
@[simp] theorem wide_tells : wide.Tells wide? :=
  plain_tells fun _ fits => Whole.within?_eq_some_iff.2 ⟨fits, rfl⟩

/-- Whole numbers of 32 bits are read as they are written. -/
@[simp] theorem count_tells : count.Tells count? :=
  plain_tells fun _ fits => Whole.within?_eq_some_iff.2 ⟨fits, rfl⟩

/-- A number is read as an id if it is below the limit. -/
theorem id?_natCast {number : Nat} (fits : number < Whole.idLimit) :
    id? (.int number) = some number := by
  rw [id?, if_pos (by omega), Int.toNat_natCast]

/-- Ids are read as they are written. -/
@[simp] theorem id_tells : id.Tells id? := plain_tells fun _ => id?_natCast

/-- Numbers are read as they are written. -/
@[simp] theorem float_tells : float.Tells float? := plain_tells fun _ _ => rfl

/-- References are read as they are written. -/
@[simp] theorem reference_tells : reference.Tells ItemRef.ofValue? where
  written content fits := by
    cases content with
    | id number =>
      change (id? (.int number)).map ItemRef.id = some (.id number)
      rw [id?_natCast fits, Option.map_some]
    | name text => rfl
  restated := False.elim
  twice := False.elim

/-- Kinds are read from their names. -/
@[simp] theorem itemKind_tells (format : Format) : itemKind.Tells (ItemKind.ofValue? format) :=
  plain_tells fun kind _ => congrArg some kind.ofName_name

/-- Changes are read as they are written, and from numbers by their digits. -/
@[simp] theorem change_tells : change.Tells EffectDefinition.value? where
  written _ _ := rfl
  restated := by
    rintro _ _ ⟨number, inside, rfl, rfl⟩
    rw [EffectDefinition.value?, EffectDefinition.value?, if_pos inside]
  twice := False.elim

/-! ## Lists and what may be absent -/

/-- A list; one of its items may be restated. -/
def list (item : Form α) : Form (List α) where
  write contents := .list (contents.map item.write)
  Fits contents := ∀ content ∈ contents, item.Fits content
  Restates value other := ∃ before one another after, item.Restates one another ∧
    value = .list (before ++ one :: after) ∧ other = .list (before ++ another :: after)
  Twice value := ∃ items, value = .list items ∧ ∃ one ∈ items, item.Twice one

@[simp] theorem fits_list (item : Form α) (contents : List α) :
    item.list.Fits contents ↔ ∀ content ∈ contents, item.Fits content :=
  Iff.rfl

/-- A list is read as it is written when its items are. -/
@[simp] theorem list_tells {item : Form α} {read? : Value → Option α} (tells : item.Tells read?) :
    item.list.Tells (list? read?) where
  written contents fits := by
    change (contents.map item.write).mapM read? = some contents
    induction contents with
    | nil => rfl
    | cons first rest ih =>
      have isFirst := tells.written first (fits first List.mem_cons_self)
      have isRest := ih fun content member => fits content (List.mem_cons_of_mem first member)
      rw [List.map_cons, List.mapM_cons, isFirst, isRest]
      rfl
  restated := by
    rintro _ _ ⟨before, one, another, after, restates, rfl, rfl⟩
    simp only [list?, List.mapM_append, List.mapM_cons, tells.restated restates]
  twice := by
    rintro _ ⟨items, rfl, one, member, twice⟩
    obtain ⟨before, after, rfl⟩ := List.append_of_mem member
    simp only [list?, List.mapM_append, List.mapM_cons, tells.twice twice]
    cases before.mapM read? <;> rfl

/-- A content or nothing. -/
def orNull (form : Form α) : Form (Option α) where
  write
    | none => .null
    | some content => form.write content
  Fits content := ∀ held ∈ content, form.Fits held
  Restates value other := value ≠ .null ∧ other ≠ .null ∧ form.Restates value other
  Twice value := value ≠ .null ∧ form.Twice value

@[simp] theorem fits_orNull_none (form : Form α) : form.orNull.Fits none := nofun

/-- Nothing is never what is written for a content. -/
def NeverNull (form : Form α) : Prop := ∀ content, form.write content ≠ .null

@[simp] theorem neverNull_text : text.NeverNull := fun _ => nofun

@[simp] theorem neverNull_id : id.NeverNull := fun _ => nofun

@[simp] theorem neverNull_reference : reference.NeverNull
  | .id _ => nofun
  | .name _ => nofun

/-- What is something is read as such. -/
theorem orNull?_of_ne (read? : Value → Option α) {value : Value} (something : value ≠ .null) :
    orNull? read? value = (read? value).map some := by
  cases value with
  | null => exact absurd rfl something
  | _ => rfl

/-- What may be absent is read as it is written. -/
@[simp] theorem orNull_tells {form : Form α} {read? : Value → Option α} (tells : form.Tells read?)
    (something : form.NeverNull) : form.orNull.Tells (orNull? read?) where
  written content fits := by
    cases content with
    | none => rfl
    | some held =>
      have isHeld := tells.written held (fits held rfl)
      exact (orNull?_of_ne read? (something held)).trans (congrArg (Option.map some) isHeld)
  restated := by
    rintro value other ⟨isSome, isSomeToo, restates⟩
    rw [orNull?_of_ne read? isSome, orNull?_of_ne read? isSomeToo, tells.restated restates]
  twice := by
    rintro value ⟨isSome, twice⟩
    rw [orNull?_of_ne read? isSome, tells.twice twice]
    rfl

end Form

end Modpack.Document
