import Modpack.Proofs.Workshops

/-!
# What copies of icons do

A copy is due for an item that waits and is in the table, as soon as the item that it waits for has
an icon. Trying to copy the icon of an item makes the copy that is due for it and does nothing else:
one record shows one other icon, and one item waits no more. A round takes the waiting items in
turn, and one copy may make the next one due; what it does is told from the copies that were due at
each turn. An item that received its icon does not wait, so it receives no second one before a pass
lets it wait again, whatever the host does to its tables meanwhile.
-/
namespace Modpack

/-- An icon that an item receives. -/
structure IconCopy where
  /-- The item. -/
  item : Nat
  /-- The item that it is copied from. -/
  reference : Nat
  /-- The picture. -/
  path : String
deriving DecidableEq

namespace ItemState

/-- The icon an item shows. -/
def icon? (state : ItemState) (id : Nat) : Option FieldValue :=
  iconOf? state.tables.items id

/-- The item whose icon an item waits for. -/
def awaits? (state : ItemState) (id : Nat) : Option Nat :=
  state.marks.pendingIcons.get? id

/-- An item shows the picture that its record has. -/
theorem icon?_eq_some_iff {state : ItemState} {id : Nat} {icon : FieldValue} :
    state.icon? id = some icon ↔
      ∃ record path, state.tables.items.get? id = some record ∧ record.icon = some path ∧
        icon = .asset path := by
  rw [icon?, iconOf?_eq_map, Option.map_eq_some_iff]
  simp only [Option.bind_eq_some_iff]
  constructor
  · rintro ⟨path, ⟨record, found, shown⟩, rfl⟩
    exact ⟨record, path, found, shown, rfl⟩
  · rintro ⟨record, path, found, shown, rfl⟩
    exact ⟨path, ⟨record, found, shown⟩, rfl⟩

/-- The copy that is due for an item: the item waits for another one, its own record is in the
table, and the record of the other one has an icon. -/
def dueCopy? (state : ItemState) (id : Nat) : Option IconCopy :=
  (state.awaits? id).bind fun reference =>
    if state.tables.items.contains id then
      ((state.tables.items.get? reference).bind ItemRecord.icon).map (IconCopy.mk id reference)
    else none

/-- The copies that are due at turns, each in the state that its turn finds. -/
def copiesAt : List Nat → ItemState → List IconCopy
  | [], _ => []
  | id :: rest, state => (state.dueCopy? id).toList ++ copiesAt rest (retryIcon id state).2

/-- The copies that are due in a round over the items that wait at its beginning. -/
def roundCopies (state : ItemState) : List IconCopy :=
  copiesAt state.marks.pendingIcons.ids state

/-- What is known of a copy that is due. -/
theorem dueCopy?_eq_some_iff {state : ItemState} {id : Nat} {copy : IconCopy} :
    state.dueCopy? id = some copy ↔
      copy.item = id ∧ state.awaits? id = some copy.reference ∧
        state.tables.items.contains id = true ∧
          ∃ lender, state.tables.items.get? copy.reference = some lender ∧
            lender.icon = some copy.path := by
  obtain ⟨item, reference, path⟩ := copy
  simp only [dueCopy?, Option.bind_eq_some_iff, Option.ite_none_right_eq_some,
    Option.map_eq_some_iff, IconCopy.mk.injEq]
  constructor
  · rintro ⟨_, waits, present, _, ⟨lender, found, icon⟩, rfl, rfl, rfl⟩
    exact ⟨rfl, waits, present, lender, found, icon⟩
  · rintro ⟨rfl, waits, present, lender, found, icon⟩
    exact ⟨reference, waits, present, path, ⟨lender, found, icon⟩, rfl, rfl, rfl⟩

/-! ## One try -/

/-- A copy that is due is made: the record receives the icon, and the item leaves the queue. -/
theorem retryIcon_of_due {state : ItemState} {id : Nat} {copy : IconCopy}
    (due : state.dueCopy? id = some copy) :
    ∃ record, state.tables.items.get? id = some record ∧
      retryIcon id state =
        (true,
          { tables :=
              { state.tables with
                items := state.tables.items.set id { record with icon := some copy.path } }
            marks :=
              { state.marks with pendingIcons := state.marks.pendingIcons.erase id } }) := by
  obtain ⟨-, waits, present, lender, lenderFound, icon⟩ := dueCopy?_eq_some_iff.1 due
  obtain ⟨record, found⟩ := Option.isSome_iff_exists.1 present
  have waits' : state.marks.pendingIcons.get? id = some copy.reference := waits
  have found' : state.tables.items.get? id = some record := found
  have shown : iconOf? state.tables.items copy.reference = some (.asset copy.path) :=
    icon?_eq_some_iff.2 ⟨lender, copy.path, lenderFound, icon, rfl⟩
  refine ⟨record, found, ?_⟩
  rw [retryIcon, waits', found']
  simp only [shown]
  rfl

/-- Where no copy is due nothing is done. -/
theorem retryIcon_of_not_due {state : ItemState} {id : Nat} (idle : state.dueCopy? id = none) :
    retryIcon id state = (false, state) := by
  have turn := retryIcon_turn id state
  generalize retryIcon id state = tried at turn ⊢
  cases turn with
  | nothing => rfl
  | copied reference record _ icon pending found shown _ =>
    obtain ⟨lender, path, lenderFound, held, _⟩ := icon?_eq_some_iff.1 shown
    have due : state.dueCopy? id = some ⟨id, reference, path⟩ :=
      dueCopy?_eq_some_iff.2
        ⟨rfl, pending, Table.contains_of_get? found, lender, lenderFound, held⟩
    rw [due] at idle
    cases idle

/-- A try tells whether a copy was due. -/
theorem retryIcon_answer (id : Nat) (state : ItemState) :
    (retryIcon id state).1 = (state.dueCopy? id).isSome := by
  cases due : state.dueCopy? id with
  | none => rw [retryIcon_of_not_due due, Option.isSome_none]
  | some copy =>
    obtain ⟨record, _, made⟩ := retryIcon_of_due due
    rw [made, Option.isSome_some]

/-- Trying several icons tells how many copies were due. -/
theorem retryEach_answer (ids : List Nat) (state : ItemState) :
    (retryEach ids state).1 = (copiesAt ids state).length := by
  induction ids generalizing state with
  | nil => rfl
  | cons id rest ih =>
    have unfolded : (retryEach (id :: rest) state).1 =
        (if (retryIcon id state).1 then 1 else 0) + (retryEach rest (retryIcon id state).2).1 := rfl
    rw [unfolded, copiesAt, List.length_append, ih, retryIcon_answer]
    cases state.dueCopy? id <;> rfl

/-! ## Copies one after another -/

/-- What copies do to the queue of waiting items. -/
structure Served (copies : List IconCopy) (before after : ItemState) : Prop where
  /-- An item that receives an icon waited for it. -/
  waited : ∀ copy ∈ copies, before.awaits? copy.item = some copy.reference
  /-- No item receives two icons. -/
  once : (copies.map IconCopy.item).Nodup
  /-- An item that received an icon waits no more, and the others wait as before. -/
  waits : ∀ id, after.awaits? id =
    if id ∈ copies.map IconCopy.item then none else before.awaits? id
  /-- Every copy leaves one item less waiting. -/
  fewer : after.marks.pendingIcons.size + copies.length = before.marks.pendingIcons.size

/-- What copies do to the queue, the tables and the marks. -/
structure IconsCopied (copies : List IconCopy) (before after : ItemState) : Prop
    extends Served copies before after where
  /-- The record of an item that receives an icon is there, and only its icon is another one. -/
  received : ∀ copy ∈ copies, ∃ record, before.tables.items.get? copy.item = some record ∧
    after.tables.items.get? copy.item = some { record with icon := some copy.path }
  /-- The other records are the same. -/
  others : ∀ id ∉ copies.map IconCopy.item,
    after.tables.items.get? id = before.tables.items.get? id
  /-- The same items are present. -/
  present : after.tables.items.ids = before.tables.items.ids
  /-- Every copy is one write. -/
  writes : after.tables.items.writes = before.tables.items.writes + copies.length
  /-- The nested lists are the same. -/
  lists : after.tables.lists = before.tables.lists
  /-- The recipes are the same. -/
  recipes : after.tables.recipes = before.tables.recipes
  /-- The display strings are the same. -/
  strings : after.tables.strings = before.tables.strings
  /-- The same items are bags. -/
  bags : after.marks.bags = before.marks.bags

section Chains

variable {early late : List IconCopy} {before middle after : ItemState}

/-- An item of some copies is none of those made after them. -/
theorem Served.apart (first : Served early before middle) (second : Served late middle after)
    {id : Nat} (inEarly : id ∈ early.map IconCopy.item) : id ∉ late.map IconCopy.item := by
  intro inLate
  obtain ⟨copy, member, rfl⟩ := List.mem_map.1 inLate
  have waited := second.waited copy member
  rw [first.waits, if_pos inEarly] at waited
  cases waited

/-- No copies leave the queue as it is. -/
theorem Served.of_marks_eq (same : after.marks = before.marks) : Served [] before after := by
  refine ⟨fun copy member => ?_, List.nodup_nil, fun id => ?_, ?_⟩
  · cases member
  · rw [awaits?, awaits?, same, List.map_nil, if_neg List.not_mem_nil]
  · rw [same, List.length_nil, Nat.add_zero]

/-- What some copies and the copies after them do to the queue all of them do. -/
theorem Served.append (first : Served early before middle) (second : Served late middle after) :
    Served (early ++ late) before after := by
  refine ⟨fun copy member => ?_, ?_, fun id => ?_, ?_⟩
  · rcases List.mem_append.1 member with inEarly | inLate
    · exact first.waited copy inEarly
    · have waited := second.waited copy inLate
      rw [first.waits] at waited
      split at waited
      · cases waited
      · exact waited
  · rw [List.map_append]
    exact List.Nodup.append first.once second.once fun id inEarly inLate =>
      first.apart second inEarly inLate
  · rw [second.waits, first.waits, List.map_append]
    by_cases inLate : id ∈ late.map IconCopy.item
    · rw [if_pos inLate, if_pos (List.mem_append_right _ inLate)]
    · rw [if_neg inLate]
      simp only [List.mem_append, inLate, or_false]
  · have firstFewer := first.fewer
    have secondFewer := second.fewer
    rw [List.length_append]
    omega

/-- No copies keep everything. -/
theorem IconsCopied.refl (state : ItemState) : IconsCopied [] state state where
  toServed := .of_marks_eq rfl
  received copy member := by cases member
  others _ _ := rfl
  present := rfl
  writes := rfl
  lists := rfl
  recipes := rfl
  strings := rfl
  bags := rfl

/-- What some copies and the copies after them do all of them do. -/
theorem IconsCopied.append (first : IconsCopied early before middle)
    (second : IconsCopied late middle after) : IconsCopied (early ++ late) before after where
  toServed := first.toServed.append second.toServed
  received copy member := by
    rcases List.mem_append.1 member with inEarly | inLate
    · obtain ⟨record, found, written⟩ := first.received copy inEarly
      have notLate := first.toServed.apart second.toServed (List.mem_map_of_mem inEarly)
      exact ⟨record, found, (second.others _ notLate).trans written⟩
    · obtain ⟨record, found, written⟩ := second.received copy inLate
      have notEarly : copy.item ∉ early.map IconCopy.item := fun inEarly =>
        first.toServed.apart second.toServed inEarly (List.mem_map_of_mem inLate)
      exact ⟨record, (first.others _ notEarly).symm.trans found, written⟩
  others id apart := by
    rw [List.map_append, List.mem_append, not_or] at apart
    exact (second.others id apart.2).trans (first.others id apart.1)
  present := second.present.trans first.present
  writes := by
    have firstWrites := first.writes
    have secondWrites := second.writes
    rw [List.length_append]
    omega
  lists := second.lists.trans first.lists
  recipes := second.recipes.trans first.recipes
  strings := second.strings.trans first.strings
  bags := second.bags.trans first.bags

end Chains

/-- A try makes the copy that is due, if one is. -/
theorem iconsCopied_retryIcon (id : Nat) (state : ItemState) :
    IconsCopied (state.dueCopy? id).toList state (retryIcon id state).2 := by
  cases due : state.dueCopy? id with
  | none =>
    rw [retryIcon_of_not_due due]
    exact .refl state
  | some copy =>
    obtain ⟨rfl, waits, present, _⟩ := dueCopy?_eq_some_iff.1 due
    obtain ⟨record, found, made⟩ := retryIcon_of_due due
    have waiting : state.marks.pendingIcons.contains copy.item = true :=
      Option.isSome_iff_exists.2 ⟨copy.reference, waits⟩
    rw [made, Option.toList_some]
    refine
      { waited := ?_, once := List.nodup_singleton _, waits := fun other => ?_
        fewer := IdMap.size_erase waiting, received := ?_, others := fun other apart => ?_
        present := Table.ids_set present _, writes := rfl, lists := rfl, recipes := rfl
        strings := rfl, bags := rfl }
    · rintro _ (_ | ⟨_, ⟨⟩⟩)
      exact waits
    · refine (IdMap.get?_erase _ _ _).trans ?_
      simp only [List.map_singleton, List.mem_singleton, @eq_comm _ other]
      rfl
    · rintro _ (_ | ⟨_, ⟨⟩⟩)
      exact ⟨record, found, (Table.get?_set _ _ _ _).trans (if_pos rfl)⟩
    · rw [List.map_singleton, List.mem_singleton] at apart
      exact (Table.get?_set _ _ _ _).trans (if_neg (Ne.symm apart))

/-- Trying several icons makes the copies that are due, each at its turn. -/
theorem iconsCopied_retryEach (ids : List Nat) (state : ItemState) :
    IconsCopied (copiesAt ids state) state (retryEach ids state).2 := by
  induction ids generalizing state with
  | nil => exact .refl state
  | cons id rest ih => exact (iconsCopied_retryIcon id state).append (ih (retryIcon id state).2)

end ItemState

/-! ## Sequences of calls -/

namespace Workshop

/-- The copies that an event other than a pass makes. -/
def copiesIn (workshop : Workshop) : WorkshopEvent → List IconCopy
  | .retry id => (workshop.state.dueCopy? id).toList
  | .retryAll => workshop.state.roundCopies
  | .offer _ | .inject | .host _ => []

/-- The copies that events other than passes make, in order. -/
def copies (ids : IdRanges) (workshop : Workshop) : List WorkshopEvent → List IconCopy
  | [] => []
  | event :: rest => workshop.copiesIn event ++ (workshop.step ids event).copies ids rest

/-- An event other than a pass takes from the queue the items that receive icons in it. -/
theorem served_step (ids : IdRanges) (workshop : Workshop) {event : WorkshopEvent}
    (noPass : event ≠ .inject) :
    ItemState.Served (workshop.copiesIn event) workshop.state (workshop.step ids event).state := by
  cases event with
  | inject => exact absurd rfl noPass
  | retry id => exact (ItemState.iconsCopied_retryIcon id workshop.state).toServed
  | retryAll => exact (ItemState.iconsCopied_retryEach _ workshop.state).toServed
  | offer | host => exact .of_marks_eq rfl

/-- Events other than passes take from the queue the items that receive icons in them. -/
theorem served_run (ids : IdRanges) (workshop : Workshop) {events : List WorkshopEvent}
    (noPass : .inject ∉ events) :
    ItemState.Served (workshop.copies ids events) workshop.state
      (workshop.run ids events).state := by
  induction events generalizing workshop with
  | nil => exact .of_marks_eq rfl
  | cons event rest ih =>
    rw [List.mem_cons, not_or] at noPass
    exact (served_step ids workshop (Ne.symm noPass.1)).append
      (ih (workshop.step ids event) noPass.2)

end Workshop

/-- Trying to copy an icon is safe at any time. A try makes the copy that is due for its item, and a
round makes those that are due at its turns: each sets one icon, is one write and takes one item
from the queue, the answer counts them, and all else is as before. And in events without a pass,
whatever the host does to its tables, every item receives one icon at most, namely from the item it
waited for at the beginning, and waits no more afterwards. -/
theorem icon_copies_are_safe (ids : IdRanges) (workshop : Workshop) :
    let state := workshop.state
    (∀ id, (retryIcon id state).1 = (state.dueCopy? id).isSome ∧
      ItemState.IconsCopied (state.dueCopy? id).toList state (retryIcon id state).2) ∧
    ((retryIcons state).1 = state.roundCopies.length ∧
      ItemState.IconsCopied state.roundCopies state (retryIcons state).2) ∧
    ∀ events : List WorkshopEvent, .inject ∉ events →
      ItemState.Served (workshop.copies ids events) state (workshop.run ids events).state := by
  intro state
  refine ⟨fun id => ?_, ?_, fun events noPass => Workshop.served_run ids workshop noPass⟩
  · exact ⟨ItemState.retryIcon_answer id state, ItemState.iconsCopied_retryIcon id state⟩
  · exact ⟨ItemState.retryEach_answer _ state, ItemState.iconsCopied_retryEach _ state⟩

/-- A workshop where two items wait for the icon of a third one, which waits for that of a template,
and an item that is not there waits for its own. -/
def gallery : Workshop :=
  let tables := [60000, 60001, 60002].foldl
    (fun tables id => tables.addItem id .weapon fun record => record) Host.seeded.tables
  let waiting := [(60000, 60001), (60001, 1), (60002, 60001), (60003, 60003)].foldl
    (fun waiting item => waiting.insert item.1 item.2) IdMap.empty
  ⟨.empty 60000, ⟨tables, { Marks.empty with pendingIcons := waiting }⟩⟩

/-- The item after the third one receives its icon in the same round and the item before it in a
later one; then only the item that is not there waits, also when the host takes the icons back. -/
theorem gallery_is_hung :
    let events : List WorkshopEvent :=
      [.retryAll, .retry 60000, .host gallery.state.tables, .retryAll]
    let copies : List IconCopy := [⟨60001, 1, "vanilla/consumable.png"⟩,
      ⟨60002, 60001, "vanilla/consumable.png"⟩, ⟨60000, 60001, "vanilla/consumable.png"⟩]
    .inject ∉ events ∧ (retryIcons gallery.state).1 = 2 ∧
      ItemState.Served copies gallery.state (gallery.run {} events).state := by
  intro events copies
  have noPass : WorkshopEvent.inject ∉ events := by simp [events]
  have made : gallery.copies {} events = copies := by decide
  have firstRound : gallery.state.roundCopies.length = 2 := by decide
  obtain ⟨_, ⟨answer, _⟩, served⟩ := icon_copies_are_safe {} gallery
  exact ⟨noPass, answer.trans firstRound, made ▸ served events noPass⟩

end Modpack
