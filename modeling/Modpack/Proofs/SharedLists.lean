import Modpack.Proofs.Families

/-!
# Lists that records share

What a list of a record holds depends on what was done to all records it is shared with, and labels
tell which these are: two records share a list exactly if it has the same name and the same label in
both, and a list holds what was pushed under its name and label, in order. That handles and labels
agree is what every step keeps: a clone has the handles and the labels of its source, a replacement
makes a handle and a label that were not there before, and a push reaches all who have the handle,
which are all who have the label.
-/
namespace Modpack

/-! ## Handles and labels agree -/

namespace Family

variable {ρ κ : Type} [DecidableEq κ] [HostRecord ρ]

/-- The list of a name has a handle and a label in the record at a place. -/
def Bears (family : Family ρ) (lineage : Lineage) (place : Nat) (list : String)
    (handle : ListHandle) (label : Nat) : Prop :=
  family.handle? place list = some handle ∧ lineage.label? place list = some label

/-- What a place bears after a replacement is the fresh list, or was borne before. -/
theorem Bears.of_replaced {family : Family ρ} {lineage : Lineage} {place : Nat} {record : ρ}
    {labels : String → Nat} {list : String} {kind : κ} {place' : Nat} {list' : String}
    {handle : ListHandle} {label : Nat}
    (borne : (family.step ⟨place, .replace list⟩).Bears (lineage.step ⟨place, .replace list⟩)
      place' list' handle label)
    (table : ListTable ρ κ) (there : family.records[place]? = some record)
    (labelled : lineage.labels[place]? = some labels) (named : table.ofName? list = some kind) :
    list' = list ∧ handle = family.lists.next ∧ label = lineage.steps + 1 ∨
      family.Bears lineage place' list' handle label := by
  obtain ⟨hasHandle, hasLabel⟩ := borne
  rw [handle?_replace table there named] at hasHandle
  rw [Lineage.label?_replace labelled] at hasLabel
  by_cases same : place' = place ∧ list' = list
  · rw [if_pos same] at hasHandle hasLabel
    exact .inl ⟨same.2, (Option.some.inj hasHandle).symm, (Option.some.inj hasLabel).symm⟩
  · rw [if_neg same] at hasHandle hasLabel
    exact .inr ⟨hasHandle, hasLabel⟩

/-- Handles and labels agree: they tell the same lists apart, and lists hold what was pushed under
their labels. -/
structure Traced (family : Family ρ) (lineage : Lineage) : Prop where
  /-- Every record has labels. -/
  length_eq : lineage.labels.length = family.records.length
  /-- Every handle is one of a list. -/
  made : ∀ {place list handle label}, family.Bears lineage place list handle label →
    family.lists.Made handle
  /-- No label is of a step to come. -/
  dated : lineage.Dated
  /-- Lists are shared where name and label are the same. -/
  shared : ∀ {place list handle label place' list' handle' label'},
    family.Bears lineage place list handle label →
    family.Bears lineage place' list' handle' label' →
      (handle = handle' ↔ list = list' ∧ label = label')
  /-- A list holds what was pushed under its name and label. -/
  content : ∀ {place list handle label}, family.Bears lineage place list handle label →
    family.lists.read handle = lineage.entries list label

namespace Traced

variable {family next : Family ρ} {lineage now : Lineage}

/-- The labels of a new record agree with its handles if its lists are empty and kept apart. -/
theorem new (table : ListTable ρ κ) (created : ρ × ListStore)
    (fresh : ∀ list, created.2.Made (table.handle created.1 list) ∧
      created.2.read (table.handle created.1 list) = [])
    (apart : ∀ list other, table.handle created.1 list = table.handle created.1 other →
      list = other) : (Family.new created).Traced .new := by
  have borne {place : Nat} {name : String} {handle : ListHandle} {label : Nat}
      (borne : (Family.new created).Bears .new place name handle label) :
      ∃ list, table.ofName? name = some list ∧ table.handle created.1 list = handle ∧
        label = 0 := by
    obtain ⟨hasHandle, hasLabel⟩ := borne
    cases place with
    | zero =>
      change (HostRecord.handleNamed created.1 name).toOption = some handle at hasHandle
      rw [table.handleNamed_eq] at hasHandle
      cases found : table.ofName? name with
      | none =>
        rw [found] at hasHandle
        cases hasHandle
      | some list =>
        rw [found] at hasHandle
        exact ⟨list, rfl, Option.some.inj hasHandle, (Option.some.inj hasLabel).symm⟩
    | succ place => cases hasLabel
  have dated : Lineage.new.Dated := by
    refine ⟨fun labels member list => ?_, fun _ member => absurd member List.not_mem_nil⟩
    rw [List.mem_singleton.1 member]
    exact Nat.le_refl 0
  refine ⟨rfl, fun one => ?_, dated, fun one another => ?_, fun one => ?_⟩
  · obtain ⟨list, _, rfl, _⟩ := borne one
    exact (fresh list).1
  · obtain ⟨list, named, rfl, zero⟩ := borne one
    obtain ⟨list', named', rfl, zero'⟩ := borne another
    constructor
    · intro same
      obtain rfl := apart list list' same
      exact ⟨table.named named named', zero.trans zero'.symm⟩
    · rintro ⟨rfl, _⟩
      rw [Option.some.inj (named.symm.trans named')]
  · obtain ⟨list, _, rfl, rfl⟩ := borne one
    exact (fresh list).2

/-- Every record that is there has labels. -/
theorem exists_labels (traced : family.Traced lineage) {place : Nat} {record : ρ}
    (there : family.records[place]? = some record) :
    ∃ labels, lineage.labels[place]? = some labels := by
  obtain ⟨inside, _⟩ := List.getElem?_eq_some_iff.1 there
  rw [← traced.length_eq] at inside
  exact ⟨_, List.getElem?_eq_getElem inside⟩

/-- A record that is not there has no labels. -/
theorem no_labels (traced : family.Traced lineage) {place : Nat}
    (missing : family.records[place]? = none) : lineage.labels[place]? = none := by
  rw [List.getElem?_eq_none_iff, traced.length_eq]
  exact List.getElem?_eq_none_iff.1 missing

/-- There are labels for every record after a step. -/
theorem length_step (traced : family.Traced lineage) (step : RecordStep) :
    (lineage.step step).labels.length = (family.step step).records.length := by
  have same := traced.length_eq
  obtain ⟨place, act⟩ := step
  rw [Lineage.step, Family.step]
  cases there : family.records[place]? with
  | none => simp only [traced.no_labels there, same]
  | some record =>
    obtain ⟨labels, labelled⟩ := traced.exists_labels there
    cases act with
    | clone => simp [labelled, same]
    | replace list =>
      cases detached : HostRecord.detachNamed record family.lists list <;>
        simp [labelled, detached, same]
    | push list entry =>
      cases named : HostRecord.handleNamed record list <;> simp [labelled, named, same]
    | write field value => simp [labelled, same]

/-- A step that makes no list and pushes nothing into one keeps the agreement, if every record has
the handles and labels that some record had. -/
theorem follow (traced : family.Traced lineage) (step : RecordStep)
    (lists : (family.step step).lists = family.lists)
    (bears : ∀ {place list handle label},
      (family.step step).Bears (lineage.step step) place list handle label →
        (lineage.step step).entries list label = lineage.entries list label ∧
          ∃ source, family.Bears lineage source list handle label) :
    (family.step step).Traced (lineage.step step) := by
  refine ⟨traced.length_step step, fun borne => ?_, traced.dated.step step,
    fun borne borne' => ?_, fun borne => ?_⟩
  · obtain ⟨_, source, before⟩ := bears borne
    rw [lists]
    exact traced.made before
  · obtain ⟨_, source, before⟩ := bears borne
    obtain ⟨_, source', before'⟩ := bears borne'
    exact traced.shared before before'
  · obtain ⟨same, source, before⟩ := bears borne
    rw [lists, same]
    exact traced.content before

/-- The label of a list is not that of a step to come. -/
theorem label_le (traced : family.Traced lineage) {place : Nat} {list : String}
    {handle : ListHandle} {label : Nat} (borne : family.Bears lineage place list handle label) :
    label ≤ lineage.steps := by
  obtain ⟨labels, there, rfl⟩ := Option.map_eq_some_iff.1 borne.2
  exact traced.dated.label_le labels (List.mem_of_getElem? there) list

section Acts

variable {place : Nat} {record : ρ} {labels : String → Nat}

/-- A step on a record that is not there keeps the agreement. -/
theorem missed (traced : family.Traced lineage) (missing : family.records[place]? = none)
    (act : RecordAct) : (family.step ⟨place, act⟩).Traced (lineage.step ⟨place, act⟩) := by
  have unlabelled := traced.no_labels missing
  refine traced.follow _ ?_ fun borne => ?_
  · simp only [Family.step, missing]
  · simp only [Family.step, Lineage.step, missing, unlabelled] at borne ⊢
    exact ⟨rfl, _, borne⟩

/-- A clone keeps the agreement: it has the handles and the labels of its source. -/
theorem cloned (traced : family.Traced lineage) (there : family.records[place]? = some record)
    (labelled : lineage.labels[place]? = some labels) :
    (family.step ⟨place, .clone⟩).Traced (lineage.step ⟨place, .clone⟩) := by
  refine traced.follow _ ?_ fun {place'} {list} {_} {label} borne =>
    ⟨Lineage.entries_of_ne_push (by simp) list label,
      origin family.records.length place place', ?_, ?_⟩
  · rw [Family.step]
    simp only [there]
  · rw [← handle?_clone there]
    exact borne.1
  · rw [← traced.length_eq, ← Lineage.label?_clone labelled]
    exact borne.2

/-- A fresh list in the place of one keeps the agreement: neither its handle nor its label was there
before. -/
theorem replaced (traced : family.Traced lineage) (table : ListTable ρ κ)
    (there : family.records[place]? = some record)
    (labelled : lineage.labels[place]? = some labels) {list : String} {kind : κ}
    (named : table.ofName? list = some kind) :
    (family.step ⟨place, .replace list⟩).Traced (lineage.step ⟨place, .replace list⟩) := by
  have lists : (family.step ⟨place, .replace list⟩).lists = family.lists.fresh [] := by
    rw [step_replace table there named]
  have isNew {place' : Nat} {list' : String} {handle : ListHandle} {label : Nat}
      (borne : family.Bears lineage place' list' handle label) :
      handle ≠ family.lists.next ∧ label ≠ lineage.steps + 1 := by
    constructor
    · rintro rfl
      exact ListStore.not_made_next family.lists (traced.made borne)
    · have before := traced.label_le borne
      omega
  refine ⟨traced.length_step _, fun {place'} {list'} {handle} {label} borne => ?_,
    traced.dated.step _, fun one another => ?_, fun {place'} {list'} {handle} {label} borne => ?_⟩
  · rw [lists]
    rcases borne.of_replaced table there labelled named with ⟨_, rfl, _⟩ | before
    · exact ListStore.made_fresh_next family.lists []
    · exact (ListStore.extendedBy_fresh family.lists [] handle (traced.made before)).1
  · rcases one.of_replaced table there labelled named with ⟨named₁, fresh₁, new₁⟩ | before₁ <;>
      rcases another.of_replaced table there labelled named with ⟨named₂, fresh₂, new₂⟩ | before₂
    · exact iff_of_true (fresh₁.trans fresh₂.symm)
        ⟨named₁.trans named₂.symm, new₁.trans new₂.symm⟩
    · refine iff_of_false (fun same => ?_) (fun same => ?_)
      · exact (isNew before₂).1 (same.symm.trans fresh₁)
      · exact (isNew before₂).2 (same.2.symm.trans new₁)
    · refine iff_of_false (fun same => ?_) (fun same => ?_)
      · exact (isNew before₁).1 (same.trans fresh₂)
      · exact (isNew before₁).2 (same.2.trans new₂)
    · exact traced.shared before₁ before₂
  · rw [lists, Lineage.entries_of_ne_push (by simp)]
    rcases borne.of_replaced table there labelled named with ⟨_, rfl, rfl⟩ | before
    · rw [ListStore.read_fresh_next, traced.dated.entries_next]
    · rw [ListStore.read_fresh (traced.made before)]
      exact traced.content before

/-- Replacing a list that records do not have keeps the agreement. -/
theorem replaced_of_unnamed (traced : family.Traced lineage) (table : ListTable ρ κ)
    (labelled : lineage.labels[place]? = some labels) {list : String}
    (unnamed : table.ofName? list = none) :
    (family.step ⟨place, .replace list⟩).Traced (lineage.step ⟨place, .replace list⟩) := by
  have still : family.step ⟨place, .replace list⟩ = family :=
    step_replace_of_unnamed table unnamed
  refine traced.follow _ (congrArg lists still) fun {place'} {list'} {_} {label} borne =>
    ⟨Lineage.entries_of_ne_push (by simp) list' label, place', ?_⟩
  obtain ⟨hasHandle, hasLabel⟩ := borne
  rw [still] at hasHandle
  have other : list' ≠ list := table.ne_of_handle? unnamed hasHandle
  rw [Lineage.label?_replace labelled, if_neg fun same => other same.2] at hasLabel
  exact ⟨hasHandle, hasLabel⟩

/-- An entry pushed into a list keeps the agreement: those who share the list are those who have its
name and label. -/
theorem pushed (traced : family.Traced lineage) (there : family.records[place]? = some record)
    (labelled : lineage.labels[place]? = some labels) {list : String} {handle : ListHandle}
    (named : HostRecord.handleNamed record list = .ok handle) (entry : ListEntry) :
    (family.step ⟨place, .push list entry⟩).Traced (lineage.step ⟨place, .push list entry⟩) := by
  have source : family.Bears lineage place list handle (labels list) := by
    constructor
    · rw [handle?, there, Option.bind_some, named]
      rfl
    · rw [Lineage.label?, labelled]
      rfl
  have before {place' : Nat} {list' : String} {handle' : ListHandle} {label : Nat}
      (borne : (family.step ⟨place, .push list entry⟩).Bears
        (lineage.step ⟨place, .push list entry⟩) place' list' handle' label) :
      family.Bears lineage place' list' handle' label := by
    obtain ⟨hasHandle, hasLabel⟩ := borne
    rw [step_push there named] at hasHandle
    rw [Lineage.label?_push] at hasLabel
    exact ⟨hasHandle, hasLabel⟩
  refine ⟨traced.length_step _, fun borne => ?_, traced.dated.step _, fun one another => ?_,
    fun {place'} {list'} {other} {label} borne => ?_⟩
  · rw [step_push there named]
    exact (ListStore.made_push family.lists handle _ entry).2 (traced.made (before borne))
  · exact traced.shared (before one) (before another)
  · have same := traced.shared source (before borne)
    rw [step_push there named, Lineage.entries_push labelled, ← traced.content (before borne)]
    by_cases isOne : handle = other
    · rw [if_pos (same.1 isOne), ← isOne]
      exact ListStore.read_push_self (traced.made source) entry
    · rw [if_neg fun both => isOne (same.2 both)]
      exact ListStore.read_push_other isOne entry

/-- Pushing into a list that records do not have keeps the agreement. -/
theorem pushed_of_unnamed (traced : family.Traced lineage) (table : ListTable ρ κ)
    (labelled : lineage.labels[place]? = some labels) {list : String}
    (unnamed : table.ofName? list = none) (entry : ListEntry) :
    (family.step ⟨place, .push list entry⟩).Traced (lineage.step ⟨place, .push list entry⟩) := by
  have still : family.step ⟨place, .push list entry⟩ = family :=
    step_push_of_unnamed table unnamed entry
  refine traced.follow _ (congrArg lists still) fun {place'} {list'} {_} {_} borne => ?_
  obtain ⟨hasHandle, hasLabel⟩ := borne
  rw [still] at hasHandle
  rw [Lineage.label?_push] at hasLabel
  have other : list' ≠ list := table.ne_of_handle? unnamed hasHandle
  rw [Lineage.entries_push labelled, if_neg fun same => other same.1.symm]
  exact ⟨rfl, place', hasHandle, hasLabel⟩

/-- A field that is written keeps the agreement: handles and labels stay. -/
theorem written (traced : family.Traced lineage) (table : ListTable ρ κ)
    (there : family.records[place]? = some record) (field : String) (value : FieldValue) :
    (family.step ⟨place, .write field value⟩).Traced
      (lineage.step ⟨place, .write field value⟩) := by
  refine traced.follow _ ?_ fun {place'} {list} {_} {label} borne =>
    ⟨Lineage.entries_of_ne_push (by simp) list label, place', ?_, ?_⟩
  · rw [Family.step]
    simp only [there]
  · rw [← handle?_write table field value]
    exact borne.1
  · rw [← Lineage.label?_write field value]
    exact borne.2

end Acts

/-- A step keeps the agreement of handles and labels. -/
theorem step (traced : family.Traced lineage) (table : ListTable ρ κ) (step : RecordStep) :
    (family.step step).Traced (lineage.step step) := by
  obtain ⟨place, act⟩ := step
  cases there : family.records[place]? with
  | none => exact traced.missed there act
  | some record =>
    obtain ⟨labels, labelled⟩ := traced.exists_labels there
    cases act with
    | clone => exact traced.cloned there labelled
    | replace list =>
      cases named : table.ofName? list with
      | some kind => exact traced.replaced table there labelled named
      | none => exact traced.replaced_of_unnamed table labelled named
    | push list entry =>
      cases named : table.ofName? list with
      | some kind =>
        have handle := table.handleNamed_eq record list
        rw [named] at handle
        exact traced.pushed there labelled handle entry
      | none => exact traced.pushed_of_unnamed table labelled named entry
    | write field value => exact traced.written table there field value

/-- Steps keep the agreement of handles and labels. -/
theorem run (traced : family.Traced lineage) (table : ListTable ρ κ) (steps : List RecordStep) :
    (family.run steps).Traced (steps.foldl Lineage.step lineage) := by
  induction steps generalizing family lineage with
  | nil => exact traced
  | cons first rest ih => exact ih (traced.step table first)

end Traced

/-! ## Sharing -/

/-- Lists are shared as their labels say. -/
structure SharesByLabel (names : List String) (family : Family ρ) (lineage : Lineage) :
    Prop where
  /-- Every record has a list of each of the names, and no others. -/
  named : ∀ place list, (family.handle? place list).isSome = true ↔
    place < family.records.length ∧ list ∈ names
  /-- Every list of a record has a label. -/
  labelled : ∀ place list, (lineage.label? place list).isSome = true ↔
    place < family.records.length
  /-- Two of them are the same list exactly if they have the same name and label. -/
  shared : ∀ {place list handle label place' list' handle' label'},
    family.Bears lineage place list handle label →
    family.Bears lineage place' list' handle' label' →
      (handle = handle' ↔ list = list' ∧ label = label')
  /-- A list holds the entries that were pushed under its name and label, in order. -/
  content : ∀ {place list handle label}, family.Bears lineage place list handle label →
    family.lists.read handle = lineage.entries list label
  /-- A replacement empties the list of the record, and all other lists of it and of other records
  are what they were. -/
  replaced : ∀ place list, place < family.records.length → list ∈ names →
    (family.step ⟨place, .replace list⟩).content? place list = some [] ∧
      ∀ place' list', (place', list') ≠ (place, list) →
        (family.step ⟨place, .replace list⟩).handle? place' list' = family.handle? place' list' ∧
        (family.step ⟨place, .replace list⟩).content? place' list' = family.content? place' list'

namespace Traced

variable {family : Family ρ} {lineage : Lineage}

/-- Every record that is there has labels. -/
theorem isSome_label?_iff (traced : family.Traced lineage) (place : Nat) (list : String) :
    (lineage.label? place list).isSome = true ↔ place < family.records.length := by
  rw [← traced.length_eq]
  simp [Lineage.label?]

/-- A replacement empties a list of one record and leaves all others. -/
theorem empties (traced : family.Traced lineage) (table : ListTable ρ κ) {place : Nat}
    {list : String} (inside : place < family.records.length) (known : list ∈ table.names) :
    (family.step ⟨place, .replace list⟩).content? place list = some [] ∧
      ∀ place' list', (place', list') ≠ (place, list) →
        (family.step ⟨place, .replace list⟩).handle? place' list' = family.handle? place' list' ∧
        (family.step ⟨place, .replace list⟩).content? place' list' =
          family.content? place' list' := by
  obtain ⟨kind, named⟩ := Option.isSome_iff_exists.1 ((table.mem_names list).1 known)
  have there := List.getElem?_eq_getElem inside
  have lists : (family.step ⟨place, .replace list⟩).lists = family.lists.fresh [] := by
    rw [step_replace table there named]
  refine ⟨?_, fun place' list' apart => ?_⟩
  · rw [content?, handle?_replace table there named, if_pos ⟨rfl, rfl⟩, lists, Option.map_some,
      ListStore.read_fresh_next]
  · have other : ¬ (place' = place ∧ list' = list) := fun same => apart (by rw [same.1, same.2])
    have same : (family.step ⟨place, .replace list⟩).handle? place' list' =
        family.handle? place' list' := by
      rw [handle?_replace table there named, if_neg other]
    refine ⟨same, ?_⟩
    rw [content?, content?, same, lists]
    cases found : family.handle? place' list' with
    | none => rfl
    | some handle =>
      have isThere : place' < family.records.length := by
        obtain ⟨record, found', _⟩ := Option.bind_eq_some_iff.1 found
        exact (List.getElem?_eq_some_iff.1 found').1
      obtain ⟨label, labelled⟩ := Option.isSome_iff_exists.1
        ((traced.isSome_label?_iff place' list').2 isThere)
      rw [Option.map_some, Option.map_some, ListStore.read_fresh (traced.made ⟨found, labelled⟩)]

/-- Where handles and labels agree, lists are shared as their labels say. -/
theorem sharesByLabel (traced : family.Traced lineage) (table : ListTable ρ κ) :
    family.SharesByLabel table.names lineage := by
  refine ⟨fun place list => ?_, traced.isSome_label?_iff, traced.shared, traced.content,
    fun place list inside known => traced.empties table inside known⟩
  rw [table.mem_names, handle?]
  cases there : family.records[place]? with
  | none =>
    have outside := List.getElem?_eq_none_iff.1 there
    simp only [Option.bind_none, Option.isSome_none, Bool.false_eq_true, false_iff]
    omega
  | some record =>
    obtain ⟨inside, _⟩ := List.getElem?_eq_some_iff.1 there
    rw [Option.bind_some, table.handleNamed_eq, and_iff_right inside]
    cases table.ofName? list <;> exact Iff.rfl

end Traced

end Family

/-- A new item has three empty lists of its own. -/
theorem ItemRecord.traced_create (store : ListStore) (id : Nat) (variant : ItemVariant) :
    (Family.new (create store id variant)).Traced .new := by
  refine .new itemLists _ (fun list => ?_) fun list other same => ?_
  · cases list <;>
      simp [itemLists, create, handle, ListStore.Made, ListStore.read, ListStore.next,
        ListStore.fresh]
  · cases list <;> cases other <;>
      simp [itemLists, create, handle, ListStore.next, ListStore.fresh] at same ⊢

/-- A new recipe has two empty lists of its own. -/
theorem RecipeRecord.traced_create (store : ListStore) (id : Nat) (kind : String) :
    (Family.new (create store id kind)).Traced .new := by
  refine .new recipeLists _ (fun list => ?_) fun list other same => ?_
  · cases list <;>
      simp [recipeLists, create, handle, ListStore.Made, ListStore.read, ListStore.next,
        ListStore.fresh]
  · cases list <;> cases other <;>
      simp [recipeLists, create, handle, ListStore.next, ListStore.fresh] at same ⊢

/-- Lists follow clones and replacements only. Whatever is done to a new item or recipe and to the
records cloned from it, two of their lists are the same one exactly if they have the same name and
were last made new by the same step; a list holds what was pushed into it through any record that
shared it, in order; and a replacement empties the list of one record. -/
theorem lists_follow_clones_and_replacements (store : ListStore) (id : Nat) (variant : ItemVariant)
    (kind : String) (steps : List RecordStep) :
    Family.SharesByLabel ["changes", "buff_changes", "parameter_changes"]
        ((Family.new (ItemRecord.create store id variant)).run steps) (.ofSteps steps) ∧
      Family.SharesByLabel ["require_primary", "require_secondary"]
        ((Family.new (RecipeRecord.create store id kind)).run steps) (.ofSteps steps) :=
  ⟨((ItemRecord.traced_create store id variant).run itemLists steps).sharesByLabel itemLists,
    ((RecipeRecord.traced_create store id kind).run recipeLists steps).sharesByLabel recipeLists⟩

/-- What is pushed through a record reaches its clone until one of them gets a list of its own. -/
example :
    let warm := ListEntry.parameter "warm" 5
    let family := (Family.new (ItemRecord.create .empty 2 .gear)).run
      [⟨0, .clone⟩, ⟨1, .push "changes" warm⟩, ⟨1, .replace "changes"⟩, ⟨0, .push "changes" warm⟩]
    family.content? 0 "changes" = some [warm, warm] ∧ family.content? 1 "changes" = some [] :=
  ⟨rfl, rfl⟩

end Modpack
