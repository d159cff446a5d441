import Mathlib.Logic.Function.Basic
import Modpack.Proofs.FieldWrites
import Modpack.Proofs.ListStores

/-!
# Families of records

Records that are cloned from one another make a family, to which things are done step by step: a
record is cloned, a list of it is replaced by a fresh one, an entry is pushed, a field is written.
Beside the family stands its lineage, which is told from the steps alone: a list of a record is
labelled with the step that last gave this record a new list, and a clone begins with the labels of
the record it is made from. Both are seen place by place, as the handle and as the label that a list
has in a record.
-/
namespace Modpack

/-! ## Nested lists by name -/

section Named

variable (ρ : Type) [HostRecord ρ]

/-- The nested lists of a kind of record, and what using them by name comes to. -/
structure ListTable (κ : Type) [DecidableEq κ] where
  /-- The names of the lists. -/
  names : List String
  /-- The list of a name. -/
  ofName? : String → Option κ
  /-- The handle of a list. -/
  handle : ρ → κ → ListHandle
  /-- Put another list in the place of one. -/
  setHandle : ρ → κ → ListHandle → ρ
  /-- The names are those of lists. -/
  mem_names : ∀ text, text ∈ names ↔ (ofName? text).isSome = true
  /-- A list has one name. -/
  named : ∀ {text other list}, ofName? text = some list → ofName? other = some list → text = other
  /-- The handle of a name is that of the list of the name. -/
  handleNamed_eq : ∀ (record : ρ) text, HostRecord.handleNamed record text =
    match ofName? text with
    | some list => .ok (handle record list)
    | none => .error (.unknownList text)
  /-- A fresh list is put in the place of the list of a name. -/
  detachNamed_eq : ∀ (record : ρ) store text, HostRecord.detachNamed record store text =
    match ofName? text with
    | some list => .ok (setHandle record list store.next, store.fresh [])
    | none => .error (.unknownList text)
  /-- Another list in the place of one leaves all others. -/
  handle_setHandle : ∀ record list other handle', handle (setHandle record list handle') other =
    if other = list then handle' else handle record other
  /-- Writing a field leaves all lists. -/
  handleNamed_afterWrite : ∀ (record : ρ) field value list,
    HostRecord.handleNamed (afterWrite record field value) list =
      HostRecord.handleNamed record list

end Named

/-- A write by name leaves the nested lists, whether it is accepted or refused. -/
theorem FieldTable.handleNamed_afterWrite {ρ φ : Type} [HostRecord ρ] (table : FieldTable ρ φ)
    (record : ρ) (name : String) (value : FieldValue) (list : String) :
    HostRecord.handleNamed (afterWrite record name value) list =
      HostRecord.handleNamed record list := by
  rw [afterWrite, table.setNamed_eq]
  cases table.ofName? name with
  | none => rfl
  | some field =>
    cases result : table.write record field value with
    | error cause => simp only [result]
    | ok written =>
      simp only [result]
      exact table.lists result list

/-- The lists of items. -/
def itemLists : ListTable ItemRecord ItemList where
  names := ["changes", "buff_changes", "parameter_changes"]
  ofName? := ItemList.ofName?
  handle := ItemRecord.handle
  setHandle := ItemRecord.setHandle
  mem_names text := by simp [ItemList.ofName?, ItemList.name, @eq_comm _ text]
  named first second := by
    have one := List.find?_some first
    have another := List.find?_some second
    exact (beq_iff_eq.1 one).symm.trans (beq_iff_eq.1 another)
  handleNamed_eq record text := by
    change ItemRecord.handleNamed record text = _
    rw [ItemRecord.handleNamed, ItemRecord.listNamed]
    cases ItemList.ofName? text <;> rfl
  detachNamed_eq record store text := by
    change ItemRecord.detachNamed record store text = _
    rw [ItemRecord.detachNamed, ItemRecord.listNamed]
    cases ItemList.ofName? text <;> rfl
  handle_setHandle := ItemRecord.handle_setHandle
  handleNamed_afterWrite := itemFields.handleNamed_afterWrite

/-- The lists of recipes. -/
def recipeLists : ListTable RecipeRecord RecipeList where
  names := ["require_primary", "require_secondary"]
  ofName? := RecipeList.ofName?
  handle := RecipeRecord.handle
  setHandle := RecipeRecord.setHandle
  mem_names text := by simp [RecipeList.ofName?, RecipeList.name, @eq_comm _ text]
  named first second := by
    have one := List.find?_some first
    have another := List.find?_some second
    exact (beq_iff_eq.1 one).symm.trans (beq_iff_eq.1 another)
  handleNamed_eq record text := by
    change RecipeRecord.handleNamed record text = _
    rw [RecipeRecord.handleNamed, RecipeRecord.listNamed]
    cases RecipeList.ofName? text <;> rfl
  detachNamed_eq record store text := by
    change RecipeRecord.detachNamed record store text = _
    rw [RecipeRecord.detachNamed, RecipeRecord.listNamed]
    cases RecipeList.ofName? text <;> rfl
  handle_setHandle _ list other _ := by cases list <;> cases other <;> rfl
  handleNamed_afterWrite := recipeFields.handleNamed_afterWrite

/-! ## Steps -/

/-- What is done to a record. -/
inductive RecordAct where
  /-- A clone is added to the records. -/
  | clone
  /-- A fresh empty list takes the place of a list. -/
  | replace (list : String)
  /-- An entry is added to a list. -/
  | push (list : String) (entry : ListEntry)
  /-- A field is written. -/
  | write (field : String) (value : FieldValue)

/-- Something done to the record at a place. -/
structure RecordStep where
  /-- The place of the record, in the order in which records were made. -/
  place : Nat
  /-- What is done to it. -/
  act : RecordAct

/-- Records cloned from one another, with the store of their lists. -/
structure Family (ρ : Type) where
  /-- The records, in the order in which they were made. -/
  records : List ρ
  /-- The store of nested lists. -/
  lists : ListStore

namespace Family

variable {ρ κ : Type}

/-- The family of one new record. -/
def new (created : ρ × ListStore) : Family ρ := ⟨[created.1], created.2⟩

variable [HostRecord ρ]

/-- The family after a step. What a record refuses changes nothing, nor does a step on a record that
is not there. -/
def step (family : Family ρ) (step : RecordStep) : Family ρ :=
  match family.records[step.place]? with
  | none => family
  | some record =>
    match step.act with
    | .clone => { family with records := family.records ++ [record] }
    | .replace list =>
      match HostRecord.detachNamed record family.lists list with
      | .ok (changed, lists) => ⟨family.records.set step.place changed, lists⟩
      | .error _ => family
    | .push list entry =>
      match HostRecord.handleNamed record list with
      | .ok handle => { family with lists := family.lists.push handle entry }
      | .error _ => family
    | .write field value =>
      { family with records := family.records.set step.place (afterWrite record field value) }

/-- The family after steps, in order. -/
def run (family : Family ρ) (steps : List RecordStep) : Family ρ :=
  steps.foldl step family

/-- The handle of a list of the record at a place. -/
def handle? (family : Family ρ) (place : Nat) (list : String) : Option ListHandle :=
  family.records[place]?.bind fun record => (HostRecord.handleNamed record list).toOption

/-- What a list of the record at a place holds. -/
def content? (family : Family ρ) (place : Nat) (list : String) : Option (List ListEntry) :=
  (family.handle? place list).map family.lists.read

end Family

/-! ## Labels -/

/-- An entry pushed into a list. -/
structure PushedEntry where
  /-- The name of the list. -/
  list : String
  /-- The label the list had in the record it was pushed through. -/
  label : Nat
  /-- The entry. -/
  entry : ListEntry

/-- What the steps alone tell of the lists of records. -/
structure Lineage where
  /-- How many steps there were. -/
  steps : Nat
  /-- The labels of each record: the number of the step that last gave it a new list of a name. The
  steps are numbered from one, and zero is the making of the first record. -/
  labels : List (String → Nat)
  /-- The entries pushed, in order. -/
  pushes : List PushedEntry

namespace Lineage

/-- One new record, of which every list is new. -/
def new : Lineage := ⟨0, [fun _ => 0], []⟩

/-- A clone inherits the labels, a replacement gives a new one, and an entry is pushed under the
label of the moment. -/
def step (lineage : Lineage) (step : RecordStep) : Lineage :=
  let next := { lineage with steps := lineage.steps + 1 }
  match lineage.labels[step.place]? with
  | none => next
  | some labels =>
    match step.act with
    | .clone => { next with labels := lineage.labels ++ [labels] }
    | .replace list =>
      { next with
        labels := lineage.labels.set step.place (Function.update labels list next.steps) }
    | .push list entry => { next with pushes := lineage.pushes ++ [⟨list, labels list, entry⟩] }
    | .write _ _ => next

/-- What steps tell of the lists of a new record and its clones. -/
def ofSteps (steps : List RecordStep) : Lineage :=
  steps.foldl step new

/-- The label of a list of the record at a place. -/
def label? (lineage : Lineage) (place : Nat) (list : String) : Option Nat :=
  lineage.labels[place]?.map fun labels => labels list

/-- The entries pushed under a name and a label. -/
def entries (lineage : Lineage) (list : String) (label : Nat) : List ListEntry :=
  (lineage.pushes.filter fun push => push.list = list ∧ push.label = label).map PushedEntry.entry

/-- No label is of a step to come. -/
structure Dated (lineage : Lineage) : Prop where
  /-- No list is labelled so. -/
  label_le : ∀ labels ∈ lineage.labels, ∀ list, labels list ≤ lineage.steps
  /-- Nothing was pushed under such a label. -/
  pushed_le : ∀ push ∈ lineage.pushes, push.label ≤ lineage.steps

/-- Labels are given by the steps that were. -/
theorem Dated.step {lineage : Lineage} (dated : lineage.Dated) (step : RecordStep) :
    (lineage.step step).Dated := by
  have later : ∀ labels ∈ lineage.labels, ∀ list, labels list ≤ lineage.steps + 1 :=
    fun labels member list => Nat.le_succ_of_le (dated.label_le labels member list)
  have pushed : ∀ push ∈ lineage.pushes, push.label ≤ lineage.steps + 1 :=
    fun push member => Nat.le_succ_of_le (dated.pushed_le push member)
  rw [Lineage.step]
  cases there : lineage.labels[step.place]? with
  | none => exact ⟨later, pushed⟩
  | some labels =>
    have known : labels ∈ lineage.labels := List.mem_of_getElem? there
    cases act : step.act with
    | clone =>
      refine ⟨fun other member => ?_, pushed⟩
      rcases List.mem_append.1 member with before | added
      · exact later other before
      · rw [List.mem_singleton.1 added]
        exact later labels known
    | replace list =>
      refine ⟨fun other member => ?_, pushed⟩
      rcases List.mem_or_eq_of_mem_set member with before | rfl
      · exact later other before
      · intro name
        by_cases same : name = list
        · exact Nat.le_of_eq (by rw [same, Function.update_self])
        · rw [Function.update_of_ne same]
          exact later labels known name
    | push list entry =>
      refine ⟨later, fun push member => ?_⟩
      rcases List.mem_append.1 member with before | added
      · exact pushed push before
      · rw [List.mem_singleton.1 added]
        exact later labels known list
    | write field value => exact ⟨later, pushed⟩

/-- Nothing was pushed under the label of the step to come. -/
theorem Dated.entries_next {lineage : Lineage} (dated : lineage.Dated) (list : String) :
    lineage.entries list (lineage.steps + 1) = [] := by
  rw [entries, List.map_eq_nil_iff, List.filter_eq_nil_iff]
  intro push member
  have before := dated.pushed_le push member
  simp only [decide_eq_true_eq]
  omega

end Lineage

/-! ## Places -/

namespace Family

/-- Where the record at a place comes from when another one was cloned last. -/
def origin (size source place : Nat) : Nat :=
  if place = size then source else place

/-- A clone at the end is what the element at its source is. -/
theorem getElem?_clone {α : Type} {items : List α} {source : Nat} {item : α}
    (there : items[source]? = some item) (place : Nat) :
    (items ++ [item])[place]? = items[origin items.length source place]? := by
  rw [origin]
  split
  · rename_i isLast
    rw [isLast, there, List.getElem?_concat_length]
  · rename_i other
    rw [List.getElem?_append]
    split
    · rfl
    · have beyond : items.length < place := by omega
      rw [List.getElem?_eq_none (Nat.le_of_lt beyond), List.getElem?_eq_none]
      rw [List.length_singleton]
      omega

/-- An element in the place of one that is there is found at its place, and no other changed. -/
theorem getElem?_put {α : Type} {items : List α} {place : Nat} {old : α}
    (there : items[place]? = some old) (item : α) (other : Nat) :
    (items.set place item)[other]? = if other = place then some item else items[other]? := by
  obtain ⟨inside, _⟩ := List.getElem?_eq_some_iff.1 there
  rw [List.getElem?_set]
  by_cases same : place = other
  · rw [if_pos same, if_pos inside, if_pos same.symm]
  · rw [if_neg same, if_neg (Ne.symm same)]

end Family

/-! ## What a step does to handles -/

section Handles

variable {ρ κ : Type} [DecidableEq κ] [HostRecord ρ] {family : Family ρ} {place : Nat} {record : ρ}

/-- A list that has a handle is not one that records do not have. -/
theorem ListTable.ne_of_handle? (table : ListTable ρ κ) {list other : String}
    {handle : ListHandle} (unnamed : table.ofName? other = none)
    (held : family.handle? place list = some handle) : list ≠ other := by
  rintro rfl
  obtain ⟨record, _, named⟩ := Option.bind_eq_some_iff.1 held
  rw [table.handleNamed_eq, unnamed] at named
  cases named

/-- After a fresh list took the place of the list of a name, the name has the handle of the fresh
list, and every other name its own. -/
theorem ListTable.toOption_handleNamed_setHandle (table : ListTable ρ κ) (record : ρ)
    {list : String} {kind : κ} (named : table.ofName? list = some kind) (handle : ListHandle)
    (other : String) :
    (HostRecord.handleNamed (table.setHandle record kind handle) other).toOption =
      if other = list then some handle else (HostRecord.handleNamed record other).toOption := by
  rw [table.handleNamed_eq, table.handleNamed_eq]
  by_cases same : other = list
  · rw [if_pos same, same, named]
    dsimp only
    rw [table.handle_setHandle, if_pos rfl]
    rfl
  · rw [if_neg same]
    cases found : table.ofName? other with
    | none => rfl
    | some otherKind =>
      have apart : otherKind ≠ kind := by
        rintro rfl
        exact same (table.named found named)
      dsimp only
      rw [table.handle_setHandle, if_neg apart]

namespace Family

/-- A clone has the handles of the record it is made from. -/
theorem handle?_clone (there : family.records[place]? = some record) (other : Nat)
    (list : String) :
    (family.step ⟨place, .clone⟩).handle? other list =
      family.handle? (origin family.records.length place other) list := by
  rw [handle?, handle?, ← getElem?_clone there, step]
  simp only [there]

/-- A list of a record that is replaced gives way to a fresh one. -/
theorem step_replace (table : ListTable ρ κ) (there : family.records[place]? = some record)
    {list : String} {kind : κ} (named : table.ofName? list = some kind) :
    family.step ⟨place, .replace list⟩ =
      ⟨family.records.set place (table.setHandle record kind family.lists.next),
        family.lists.fresh []⟩ := by
  rw [step]
  simp only [there, table.detachNamed_eq, named]

/-- A replacement gives a list of one record the fresh handle. -/
theorem handle?_replace (table : ListTable ρ κ) (there : family.records[place]? = some record)
    {list : String} {kind : κ} (named : table.ofName? list = some kind) (other : Nat)
    (otherList : String) :
    (family.step ⟨place, .replace list⟩).handle? other otherList =
      if other = place ∧ otherList = list then some family.lists.next
      else family.handle? other otherList := by
  rw [step_replace table there named, handle?, getElem?_put there, handle?]
  by_cases here : other = place
  · rw [if_pos here, Option.bind_some, table.toOption_handleNamed_setHandle record named, here,
      there, Option.bind_some]
    simp only [true_and]
  · rw [if_neg here, if_neg fun both => here both.1]

/-- Replacing a list that records do not have changes nothing. -/
theorem step_replace_of_unnamed (table : ListTable ρ κ) {list : String}
    (unnamed : table.ofName? list = none) : family.step ⟨place, .replace list⟩ = family := by
  rw [step]
  cases family.records[place]? with
  | none => rfl
  | some record => simp only [table.detachNamed_eq, unnamed]

/-- An entry is pushed into the list of its name. -/
theorem step_push (there : family.records[place]? = some record) {list : String}
    {handle : ListHandle} (named : HostRecord.handleNamed record list = .ok handle)
    (entry : ListEntry) :
    family.step ⟨place, .push list entry⟩ =
      { family with lists := family.lists.push handle entry } := by
  rw [step]
  simp only [there, named]

/-- Pushing into a list that records do not have changes nothing. -/
theorem step_push_of_unnamed (table : ListTable ρ κ) {list : String}
    (unnamed : table.ofName? list = none) (entry : ListEntry) :
    family.step ⟨place, .push list entry⟩ = family := by
  rw [step]
  cases family.records[place]? with
  | none => rfl
  | some record => simp only [table.handleNamed_eq, unnamed]

/-- Writing a field leaves all handles. -/
theorem handle?_write (table : ListTable ρ κ) (field : String) (value : FieldValue) (other : Nat)
    (list : String) :
    (family.step ⟨place, .write field value⟩).handle? other list = family.handle? other list := by
  rw [step]
  cases there : family.records[place]? with
  | none => rfl
  | some record =>
    dsimp only
    rw [handle?, getElem?_put there, handle?]
    by_cases here : other = place
    · rw [if_pos here, Option.bind_some, table.handleNamed_afterWrite, here, there,
        Option.bind_some]
    · rw [if_neg here]

end Family

end Handles

/-! ## What a step does to labels -/

namespace Lineage

variable {lineage : Lineage} {place : Nat} {labels : String → Nat}

/-- A clone has the labels of the record it is made from. -/
theorem label?_clone (there : lineage.labels[place]? = some labels) (other : Nat)
    (list : String) :
    (lineage.step ⟨place, .clone⟩).label? other list =
      lineage.label? (Family.origin lineage.labels.length place other) list := by
  rw [label?, label?, ← Family.getElem?_clone there, step]
  simp only [there]

/-- A replacement gives a list of one record the number of the step as its label. -/
theorem label?_replace (there : lineage.labels[place]? = some labels) (list : String)
    (other : Nat) (otherList : String) :
    (lineage.step ⟨place, .replace list⟩).label? other otherList =
      if other = place ∧ otherList = list then some (lineage.steps + 1)
      else lineage.label? other otherList := by
  rw [step]
  simp only [there]
  rw [label?, Family.getElem?_put there, label?]
  by_cases here : other = place
  · rw [if_pos here, Option.map_some, here, there, Option.map_some, Function.update_apply]
    simp only [true_and]
    split <;> rfl
  · rw [if_neg here, if_neg fun both => here both.1]

/-- Pushing leaves all labels. -/
theorem label?_push (list : String) (entry : ListEntry) (other : Nat) (otherList : String) :
    (lineage.step ⟨place, .push list entry⟩).label? other otherList =
      lineage.label? other otherList := by
  rw [step]
  cases lineage.labels[place]? <;> rfl

/-- Writing leaves all labels. -/
theorem label?_write (field : String) (value : FieldValue) (other : Nat) (list : String) :
    (lineage.step ⟨place, .write field value⟩).label? other list = lineage.label? other list := by
  rw [step]
  cases lineage.labels[place]? <;> rfl

/-- Whatever is not a push leaves the entries. -/
theorem entries_of_ne_push {act : RecordAct} (other : ∀ list entry, act ≠ .push list entry)
    (name : String) (label : Nat) :
    (lineage.step ⟨place, act⟩).entries name label = lineage.entries name label := by
  rw [step]
  cases lineage.labels[place]? with
  | none => rfl
  | some labels =>
    cases act with
    | push list entry => exact absurd rfl (other list entry)
    | clone | replace list | write field value => rfl

/-- An entry that is pushed counts under its name and the label of the moment. -/
theorem entries_push (there : lineage.labels[place]? = some labels) (list : String)
    (entry : ListEntry) (otherList : String) (label : Nat) :
    (lineage.step ⟨place, .push list entry⟩).entries otherList label =
      if list = otherList ∧ labels list = label then lineage.entries otherList label ++ [entry]
      else lineage.entries otherList label := by
  rw [step]
  simp only [there, entries, List.filter_append, List.map_append]
  by_cases same : list = otherList ∧ labels list = label
  · obtain ⟨rfl, rfl⟩ := same
    simp
  · simp [same]

end Lineage

end Modpack
