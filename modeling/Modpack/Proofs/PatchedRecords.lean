import Modpack.Proofs.ItemSteps
import Modpack.Proofs.Numbering
import Modpack.Proofs.Templates
import Modpack.Proofs.Turns

/-!
# What the patches of a pass leave of a record

A pass may patch a record several times. Each patch writes only what the record lacks at its turn,
but a value that is not written is there already, so the record shows all of it. What a field shows
after the pass is therefore what the last of the patches that give it a value gives, whatever the
ones before it wrote, and what the field showed before where none gives it a value. New items are
put under numbers that are free, and whatever is pushed for them goes into lists that are new, so
they change nothing of a record that was there, also when they start from one that is patched half.
-/
namespace Modpack

/-! ## Values given one after another -/

section Given

variable {α : Type}

/-- What the patches of a record give it, in order. -/
def patchesGive (entries : List (Entry ItemDefinition)) (id : Nat)
    (given? : ItemDefinition → Option α) : List α :=
  entries.filterMap fun entry =>
    if entry.definition.patchTarget? = some id then given? entry.definition else none

/-- The last value that patches of a record give it, or the one it had if none gives it any. -/
def lastGiven (entries : List (Entry ItemDefinition)) (id : Nat)
    (given? : ItemDefinition → Option α) (old : α) : α :=
  (patchesGive entries id given?).getLast?.getD old

/-- What entries give last is what the later ones give over what the earlier ones gave. -/
theorem lastGiven_append (front back : List (Entry ItemDefinition)) (id : Nat)
    (given? : ItemDefinition → Option α) (old : α) :
    lastGiven (front ++ back) id given? old =
      lastGiven back id given? (lastGiven front id given? old) := by
  have both : patchesGive (front ++ back) id given? =
      patchesGive front id given? ++ patchesGive back id given? := List.filterMap_append
  simp only [lastGiven, both, List.getLast?_append, Option.getD_or]

/-- A patch of a record gives it what it says. -/
theorem lastGiven_of_patches {entry : Entry ItemDefinition} {id : Nat}
    (patches : entry.definition.patchTarget? = some id) (given? : ItemDefinition → Option α)
    (old : α) : lastGiven [entry] id given? old = (given? entry.definition).getD old := by
  have one : patchesGive [entry] id given? = (given? entry.definition).toList := by
    simp only [patchesGive, List.filterMap_cons, List.filterMap_nil, if_pos patches]
    cases given? entry.definition <;> rfl
  rw [lastGiven, one]
  cases given? entry.definition <;> rfl

/-- Entries that do not patch a record give it nothing. -/
theorem lastGiven_of_not_patches {entries : List (Entry ItemDefinition)} {id : Nat}
    (other : ∀ entry ∈ entries, entry.definition.patchTarget? ≠ some id)
    (given? : ItemDefinition → Option α) (old : α) : lastGiven entries id given? old = old := by
  have nothing : patchesGive entries id given? = [] := by
    refine List.filterMap_eq_nil_iff.2 fun entry member => ?_
    rw [if_neg (other entry member)]
  rw [lastGiven, nothing]
  rfl

end Given

/-! ## A record after patches -/

namespace ItemRecord

/-- The record without the fields that a patch can write. -/
def unpatched (record : ItemRecord) : ItemRecord :=
  { record with
    price := 0
    weight := 0
    rareColor := 0
    sellable := false
    notForFire := false
    soundType := 0
    fireRate := 0
    icon := none }

/-- What entries leave of a record: of four fields the last value that a patch of the record gives
and that is not the default, of two the last value that a patch of the record has, and of all others
what they were, apart from the weight and the icon of a record that is patched. -/
structure LeftBy (entries : List (Entry ItemDefinition)) (id : Nat) (before after : ItemRecord) :
    Prop where
  /-- The price. -/
  price : after.price =
    lastGiven entries id (fun item => Option.guard (· ≠ 100) item.price) before.price
  /-- The color that marks a rare item. -/
  rareColor : after.rareColor =
    lastGiven entries id (fun item => Option.guard (· ≠ 0) item.rareColor) before.rareColor
  /-- The sound. -/
  soundType : after.soundType =
    lastGiven entries id (fun item => Option.guard (· ≠ 0) item.soundType) before.soundType
  /-- The rate of fire. -/
  fireRate : after.fireRate =
    lastGiven entries id (fun item => Option.guard (· ≠ 0) item.firerate) before.fireRate
  /-- Whether it can be sold. -/
  sellable : after.sellable = lastGiven entries id (fun item => some item.sellable) before.sellable
  /-- Whether it is kept from the fire. -/
  notForFire : after.notForFire =
    lastGiven entries id (fun item => some item.notForFire) before.notForFire
  /-- The weight, which changes only if the record is patched. -/
  weight : after.weight ≠ before.weight →
    ∃ entry ∈ entries, entry.definition.patchTarget? = some id
  /-- The icon, which changes only if the record is patched. -/
  icon : after.icon ≠ before.icon → ∃ entry ∈ entries, entry.definition.patchTarget? = some id
  /-- Everything else, the handles of the nested lists with it. -/
  others : after.unpatched = before.unpatched

/-- Entries that do not patch a record leave it as it is. -/
theorem leftBy_self {entries : List (Entry ItemDefinition)} {id : Nat}
    (other : ∀ entry ∈ entries, entry.definition.patchTarget? ≠ some id) (record : ItemRecord) :
    LeftBy entries id record record := by
  constructor
  case weight => exact fun different => absurd rfl different
  case icon => exact fun different => absurd rfl different
  case others => rfl
  all_goals exact (lastGiven_of_not_patches other _ _).symm

/-- What later entries leave of what earlier ones left is what all of them leave. -/
theorem LeftBy.append {front back : List (Entry ItemDefinition)} {id : Nat}
    {before middle after : ItemRecord} (first : LeftBy front id before middle)
    (second : LeftBy back id middle after) : LeftBy (front ++ back) id before after := by
  have inFront (patched : ∃ entry ∈ front, entry.definition.patchTarget? = some id) :
      ∃ entry ∈ front ++ back, entry.definition.patchTarget? = some id := by
    obtain ⟨entry, member, patches⟩ := patched
    exact ⟨entry, List.mem_append_left back member, patches⟩
  have inBack (patched : ∃ entry ∈ back, entry.definition.patchTarget? = some id) :
      ∃ entry ∈ front ++ back, entry.definition.patchTarget? = some id := by
    obtain ⟨entry, member, patches⟩ := patched
    exact ⟨entry, List.mem_append_right front member, patches⟩
  constructor
  case price => rw [lastGiven_append, ← first.price, ← second.price]
  case rareColor => rw [lastGiven_append, ← first.rareColor, ← second.rareColor]
  case soundType => rw [lastGiven_append, ← first.soundType, ← second.soundType]
  case fireRate => rw [lastGiven_append, ← first.fireRate, ← second.fireRate]
  case sellable => rw [lastGiven_append, ← first.sellable, ← second.sellable]
  case notForFire => rw [lastGiven_append, ← first.notForFire, ← second.notForFire]
  case weight =>
    intro different
    by_cases same : after.weight = middle.weight
    · exact inFront (first.weight (same ▸ different))
    · exact inBack (second.weight same)
  case icon =>
    intro different
    by_cases same : after.icon = middle.icon
    · exact inFront (first.icon (same ▸ different))
    · exact inBack (second.icon same)
  case others => rw [second.others, first.others]

/-- A write into a field that a patch can write leaves everything else. -/
theorem unpatched_of_set {record written : ItemRecord} {field : ItemField} {value : FieldValue}
    (accepted : record.set field value = .ok written) (patchable : field ∈ ItemField.patchable) :
    written.unpatched = record.unpatched := by
  cases field <;>
    first
    | exact absurd patchable (by decide)
    | obtain ⟨content, _, rfl⟩ := Except.eq_ok_of_map_eq_ok accepted
      rfl

/-- Writes into fields that a patch can write leave everything else. -/
theorem unpatched_of_setAll {record written : ItemRecord} {writes : ItemWrites}
    (accepted : record.setAll writes = .ok written)
    (patchable : ∀ write ∈ writes, write.1 ∈ ItemField.patchable) :
    written.unpatched = record.unpatched := by
  induction writes generalizing record with
  | nil =>
    obtain rfl := Except.ok.inj accepted
    rfl
  | cons write rest ih =>
    rw [setAll_cons] at accepted
    cases first : record.set write.1 write.2 with
    | error cause =>
      rw [first] at accepted
      cases accepted
    | ok middle =>
      rw [first] at accepted
      have later := ih accepted fun other member => patchable other (List.mem_cons_of_mem _ member)
      rw [later, unpatched_of_set first (patchable write List.mem_cons_self)]

end ItemRecord

/-! ## One patch -/

/-- Values that are the same and not numbers with a fraction are equal. -/
theorem FieldValue.eq_of_same {left right : FieldValue} (exact : ∀ number, right ≠ .float number)
    (same : left.same right = true) : left = right := by
  cases right with
  | float number => exact absurd rfl (exact number)
  | _ => cases left <;> simp_all [FieldValue.same]

namespace ItemDefinition

section Patched

variable {item : ItemDefinition} {items : Table ItemRecord} {record written : ItemRecord}

/-- After a patch was written a field whose values compare exactly holds what the patch asks for in
it, or what it held before if the patch asks for nothing there. -/
theorem read_of_asked
    (accepted : record.setAll ((item.patchValues items).filter record.lacks) = .ok written)
    {α : Type} {make : α → FieldValue} (apart : Function.Injective make)
    (exact : ∀ content number, make content ≠ .float number) {field : ItemField}
    {read : ItemRecord → α} (reads : ∀ record, record.get? field = some (make (read record)))
    {asked : Option α}
    (asks : ∀ value, (field, value) ∈ item.patchValues items ↔
      ∃ content, asked = some content ∧ value = make content) :
    read written = asked.getD (read record) := by
  cases wanted : asked with
  | none =>
    have unwritten : field ∉ ((item.patchValues items).filter record.lacks).map Prod.fst := by
      intro inFields
      obtain ⟨⟨_, value⟩, inFilter, rfl⟩ := List.mem_map.1 inFields
      obtain ⟨_, something, _⟩ := (asks value).1 (List.mem_filter.1 inFilter).1
      rw [wanted] at something
      cases something
    have kept := (ItemRecord.setAll_frame accepted).2.2 field unwritten
    rw [reads, reads] at kept
    exact apart (Option.some.inj kept)
  | some content =>
    have member : (field, make content) ∈ item.patchValues items :=
      (asks _).2 ⟨content, wanted, rfl⟩
    have shown := lacks_eq_false_of_patched accepted (field, make content) member
    obtain ⟨held, found, same⟩ := ItemRecord.lacks_eq_false_iff.1 shown
    have equal : held = make content := FieldValue.eq_of_same (exact content) same
    rw [reads, equal] at found
    exact apart (Option.some.inj found)

/-- After a patch was written a field of whole numbers holds the one it asks for, or the old one. -/
theorem whole_of_asked
    (accepted : record.setAll ((item.patchValues items).filter record.lacks) = .ok written)
    (field : ItemField) {read : ItemRecord → Int}
    (reads : ∀ record : ItemRecord, record.get? field = some (.int (read record)))
    {asked : Option Int}
    (asks : ∀ value, (field, value) ∈ item.patchValues items ↔
      ∃ content, asked = some content ∧ value = .int content) :
    read written = asked.getD (read record) :=
  read_of_asked accepted (fun _ _ => FieldValue.int.inj) (fun _ _ => FieldValue.noConfusion) reads
    asks

/-- After a patch was written a field that is true or false is what the patch has there. -/
theorem truth_of_asked
    (accepted : record.setAll ((item.patchValues items).filter record.lacks) = .ok written)
    (field : ItemField) {read : ItemRecord → Bool}
    (reads : ∀ record : ItemRecord, record.get? field = some (.bool (read record))) {asked : Bool}
    (asks : ∀ value, (field, value) ∈ item.patchValues items ↔ value = .bool asked) :
    read written = asked := by
  have given : ∀ value, (field, value) ∈ item.patchValues items ↔
      ∃ content, some asked = some content ∧ value = .bool content := by
    simpa using asks
  exact read_of_asked accepted (fun _ _ => FieldValue.bool.inj)
    (fun _ _ => FieldValue.noConfusion) reads given

/-- What a patch that was written leaves of its target. -/
theorem leftBy_of_patched {entry : Entry ItemDefinition} {id : Nat}
    (patches : entry.definition.patchTarget? = some id)
    (accepted : record.setAll ((entry.definition.patchValues items).filter record.lacks) =
      .ok written) : ItemRecord.LeftBy [entry] id record written := by
  constructor
  case price =>
    rw [lastGiven_of_patches patches]
    refine whole_of_asked accepted .price (fun _ => rfl) fun value => ?_
    have member : (ItemField.price, value) ∈ entry.definition.patchValues items ↔
        entry.definition.price ≠ 100 ∧ value = .int entry.definition.price := by
      by_cases plain : entry.definition.price = 100 <;>
        simp [mem_patchValues, overrides, minimal, plain]
    rw [member]
    simp
  case rareColor =>
    rw [lastGiven_of_patches patches]
    refine whole_of_asked accepted .rareColor (fun _ => rfl) fun value => ?_
    simp [mem_patchValues, overrides]
  case soundType =>
    rw [lastGiven_of_patches patches]
    refine whole_of_asked accepted .soundType (fun _ => rfl) fun value => ?_
    simp [mem_patchValues, overrides]
  case fireRate =>
    rw [lastGiven_of_patches patches]
    refine whole_of_asked accepted .fireRate (fun _ => rfl) fun value => ?_
    simp [mem_patchValues, overrides]
  case sellable =>
    rw [lastGiven_of_patches patches]
    refine truth_of_asked accepted .sellable (fun _ => rfl) fun value => ?_
    simp [mem_patchValues, overrides]
  case notForFire =>
    rw [lastGiven_of_patches patches]
    refine truth_of_asked accepted .notForFire (fun _ => rfl) fun value => ?_
    simp [mem_patchValues, overrides]
  case weight => exact fun _ => ⟨entry, List.mem_singleton_self entry, patches⟩
  case icon => exact fun _ => ⟨entry, List.mem_singleton_self entry, patches⟩
  case others =>
    refine ItemRecord.unpatched_of_setAll accepted fun write member => ?_
    exact patchValues_patchable _ items write (List.mem_filter.1 member).1

end Patched

end ItemDefinition

/-! ## A pass -/

/-- What entries leave of the records in tables: each is there afterwards, with what they leave of
its fields and with the same content in its nested lists. -/
def Tables.LeftBy (entries : List (Entry ItemDefinition)) (before after : Tables) : Prop :=
  ∀ id record, before.items.get? id = some record →
    ∃ left, after.items.get? id = some left ∧ record.LeftBy entries id left ∧
      ∀ list, after.lists.read (left.handle list) = before.lists.read (record.handle list)

namespace Tables

variable {before middle after : Tables}

/-- What later entries leave of what earlier ones left is what all of them leave. -/
theorem LeftBy.append {front back : List (Entry ItemDefinition)}
    (first : before.LeftBy front middle) (second : middle.LeftBy back after) :
    before.LeftBy (front ++ back) after := by
  intro id record found
  obtain ⟨between, foundBetween, fieldsBetween, listsBetween⟩ := first id record found
  obtain ⟨left, foundLeft, fields, lists⟩ := second id between foundBetween
  refine ⟨left, foundLeft, fieldsBetween.append fields, fun list => ?_⟩
  rw [lists, listsBetween]

/-- Entries that patch no record in the tables leave all of them. -/
theorem leftBy_self {entries : List (Entry ItemDefinition)}
    (other : ∀ id record, before.items.get? id = some record →
      ∀ entry ∈ entries, entry.definition.patchTarget? ≠ some id) :
    before.LeftBy entries before := by
  intro id record found
  exact ⟨record, found, ItemRecord.leftBy_self (other id record found) record, fun _ => rfl⟩

end Tables

/-- An entry that patches does so with the record that its definition names. -/
theorem Entry.patchTarget?_of_isPatch {entry : Entry ItemDefinition}
    (patches : entry.isPatch = true) :
    entry.definition.patchTarget? = some entry.definition.targetItemId := by
  have isSome : entry.definition.patchTarget?.isSome = true := patches
  rw [ItemDefinition.patchTarget?] at isSome ⊢
  split at isSome
  · rename_i modifies
    rw [if_pos modifies]
  · cases isSome

/-- An entry that makes a new item patches no record. -/
theorem Entry.patchTarget?_ne_of_makes {entry : Entry ItemDefinition}
    (makes : entry.isPatch = false) (id : Nat) : entry.definition.patchTarget? ≠ some id := by
  have isNone : entry.definition.patchTarget?.isSome = false := makes
  intro target
  rw [target] at isNone
  cases isNone

/-- What a patch leaves of the records, if its target is written and nothing else is. -/
theorem Tables.leftBy_of_patched {before after : Tables} {entry : Entry ItemDefinition}
    {target written : ItemRecord} (patches : entry.isPatch = true)
    (found : before.items.get? entry.definition.targetItemId = some target)
    (accepted : target.setAll ((entry.definition.patchValues before.items).filter target.lacks) =
      .ok written)
    (reads : ∀ id, after.items.get? id =
      if entry.definition.targetItemId = id then some written else before.items.get? id)
    (lists : after.lists = before.lists) : before.LeftBy [entry] after := by
  intro id record held
  have names := Entry.patchTarget?_of_isPatch patches
  by_cases own : entry.definition.targetItemId = id
  · have same : target = record := by
      rw [own, held] at found
      exact (Option.some.inj found).symm
    have fields : record.LeftBy [entry] id written :=
      ItemDefinition.leftBy_of_patched (own ▸ names) (same ▸ accepted)
    refine ⟨written, (reads id).trans (if_pos own), fields, fun list => ?_⟩
    rw [lists, (ItemRecord.setAll_frame accepted).2.1, same]
  · have other : entry.definition.patchTarget? ≠ some id := by
      rw [names]
      exact fun target => own (Option.some.inj target)
    have fields := ItemRecord.leftBy_self (List.forall_mem_singleton.2 other) record
    refine ⟨record, ((reads id).trans (if_neg own)).trans held, fields, fun list => ?_⟩
    rw [lists]

/-- What the turn of an entry leaves of the records it finds. -/
theorem leftBy_of_itemStep (ids : IdRanges) (entry : Entry ItemDefinition) (state : ItemState)
    (grounded : state.tables.Grounded) :
    state.tables.LeftBy [entry] (Turn.mk entry state (itemStep ids entry state)).after.tables := by
  have turn := itemStep_turn ids entry state
  generalize itemStep ids entry state = result at turn ⊢
  cases turn with
  | targetMissing patches missing =>
    refine Tables.leftBy_self fun id record found => List.forall_mem_singleton.2 fun target => ?_
    rw [Entry.patchTarget?_of_isPatch patches] at target
    rw [← Option.some.inj target, missing] at found
    cases found
  | present makes | baseMissing makes =>
    exact Tables.leftBy_self fun id _ _ =>
      List.forall_mem_singleton.2 (Entry.patchTarget?_ne_of_makes makes id)
  | upToDate patches target found current =>
    -- Nothing is lacking, so writing all that is lacking leaves the record as it is.
    have accepted : target.setAll ((entry.definition.patchValues state.tables.items).filter
        target.lacks) = .ok target := by
      rw [current]
      rfl
    refine Tables.leftBy_of_patched patches found accepted (fun id => ?_) rfl
    split
    · rename_i own
      rw [← own]
      exact found
    · rfl
  | patched patches target written found _ accepted =>
    exact Tables.leftBy_of_patched patches found accepted (fun _ => Table.get?_set _ _ _ _) rfl
  | made makes absent base record found accepted =>
    intro id held there
    have apart : entry.id ≠ id := Table.ne_of_get?_of_absent there absent
    let plan := planAround ids state.tables.items entry base.variant record
    have extended : state.tables.lists.ExtendedBy (plan.finished state.tables.lists).2 :=
      ItemPlan.extendedBy_finished (ItemPlan.pushesApart_planAround ids _ entry _ record)
    refine ⟨held, ?_, ItemRecord.leftBy_self
      (List.forall_mem_singleton.2 (Entry.patchTarget?_ne_of_makes makes id)) held, ?_⟩
    · refine (Table.get?_set _ _ _ _).trans ?_
      exact (if_neg apart).trans there
    · exact fun list => (extended _ (grounded.items id held there list)).2

/-- Grounded tables are grounded after the turn of an entry. -/
theorem grounded_after_itemStep (ids : IdRanges) (entry : Entry ItemDefinition)
    (state : ItemState) (grounded : state.tables.Grounded) :
    (Turn.mk entry state (itemStep ids entry state)).after.tables.Grounded := by
  cases result : itemStep ids entry state with
  | error halt =>
    change halt.state.tables.Grounded
    rw [Atomic.untouched result]
    exact grounded
  | ok done => exact itemStep_grounded result grounded

/-- What a pass leaves of the records it finds. -/
theorem leftBy_of_runPass (ids : IdRanges) (entries : List (Entry ItemDefinition))
    (state : ItemState) (grounded : state.tables.Grounded) :
    state.tables.LeftBy entries (runPass (itemStep ids) entries state).state.tables := by
  induction entries generalizing state with
  | nil => exact Tables.leftBy_self fun _ _ _ _ member => absurd member List.not_mem_nil
  | cons entry rest ih =>
    rw [runPass_cons_state]
    have first := leftBy_of_itemStep ids entry state grounded
    have later := ih _ (grounded_after_itemStep ids entry state grounded)
    exact first.append later

/-- After a pass over a registry with any patches and any new items, every record that was there
before is there still. A field that a patch writes only where it differs from the default shows the
last value that differs, over all patches of this record in the order of the registry; a field that
a patch always writes shows the value of the last of them; a field that no patch gives a value shows
what it did. The weight and the icon are as they were unless the record is patched, and everything
else is as it was in any case, with the content of the nested lists. -/
theorem last_patch_wins (ids : IdRanges) (registry : Registry ItemDefinition) (state : ItemState)
    (ready : state.tables.items.isReady = true) (grounded : state.tables.Grounded) :
    ∃ pass, injectItems ids registry state = .ok pass ∧
      ∀ id before, state.tables.items.get? id = some before →
        ∃ after, pass.state.tables.items.get? id = some after ∧
          before.LeftBy registry.entries id after ∧
          ∀ list, pass.state.tables.lists.read (after.handle list) =
            state.tables.lists.read (before.handle list) := by
  have began : injectItems ids registry state =
      .ok (runPass (itemStep ids) registry.entries state) := by
    rw [injectItems, if_pos ready]
  exact ⟨_, began, leftBy_of_runPass ids registry.entries state grounded⟩

/-- Two patches of one template, and a new item between them that starts from it. -/
def tariffOffers : List (Offer ItemDefinition) :=
  [{ id := "cheap", isModify := true, targetItemId := 1, price := 3, sellable := false },
    { id := "copy", baseItem := 1 },
    { id := "marked", isModify := true, targetItemId := 1, rareColor := 2, notForFire := true }].map
      fun item => { package := .inMemory "tariffs", definition := item }

/-- The registry of these definitions. -/
def tariffRegistry : Registry ItemDefinition := (Registry.empty 60000).offerAll tariffOffers

/-- The second patch has the last word about what every patch writes, and leaves the price to the
first one; the template keeps its one change. -/
theorem template_under_tariffs :
    Host.seeded.tables.items.isReady = true ∧ Host.seeded.tables.Grounded ∧
    ∃ pass, injectItems {} tariffRegistry ⟨Host.seeded.tables, .empty⟩ = .ok pass ∧
      ∃ after, pass.state.tables.items.get? 1 = some after ∧
        after.price = 3 ∧ after.rareColor = 2 ∧ after.soundType = 0 ∧
        after.sellable = true ∧ after.notForFire = true ∧ after.titleKey = 1 ∧
        pass.state.tables.lists.read after.changes = [.parameter "food" 10] := by
  have ready : Host.seeded.tables.items.isReady = true := by decide
  have grounded := Tables.seeded_grounded
  obtain ⟨pass, began, leaves⟩ :=
    last_patch_wins {} tariffRegistry ⟨Host.seeded.tables, .empty⟩ ready grounded
  obtain ⟨before, found, sound, title, content⟩ :
      ∃ before, Host.seeded.tables.items.get? 1 = some before ∧ before.soundType = 0 ∧
        before.titleKey = 1 ∧
        Host.seeded.tables.lists.read before.changes = [.parameter "food" 10] :=
    ⟨_, rfl, rfl, rfl, by decide⟩
  obtain ⟨after, there, fields, lists⟩ := leaves 1 before found
  have others := congrArg ItemRecord.titleKey fields.others
  refine ⟨ready, grounded, pass, began, after, there, ?_, ?_, ?_, ?_, ?_, others.trans title,
    (lists .changes).trans content⟩
  · exact fields.price.trans rfl
  · exact fields.rareColor.trans rfl
  · exact fields.soundType.trans sound
  · exact fields.sellable.trans rfl
  · exact fields.notForFire.trans rfl

end Modpack
