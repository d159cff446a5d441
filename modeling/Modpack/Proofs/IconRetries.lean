import Modpack.Proofs.IconCopies

/-!
# Rounds of icon copies

An item that borrows an icon not yet there waits, and every round of copies takes the waiting items
in ascending order. An item shows another icon only when its own copy is made, and then it waits no
more; so the icons of items that do not wait, and of items that still wait, are those of before.
Every copy leaves one item less waiting, so rounds come to an end, and at the end an item waits
only for an icon that is missing.
-/
namespace Modpack

/-- An icon shows the record last set there, and a set leaves all other icons alone. -/
theorem iconOf?_set (items : Table ItemRecord) (id other : Nat) (record : ItemRecord) :
    iconOf? (items.set id record) other =
      if id = other then record.get? .icon else iconOf? items other := by
  rw [iconOf?, Table.get?_set]
  by_cases same : id = other
  · rw [if_pos same, if_pos same, Option.bind_some]
  · rw [if_neg same, if_neg same, iconOf?]

/-- An item whose icon is seen is present. -/
theorem contains_of_iconOf? {items : Table ItemRecord} {id : Nat} {icon : FieldValue}
    (shown : iconOf? items id = some icon) : items.contains id = true := by
  obtain ⟨record, found, _⟩ := Option.bind_eq_some_iff.1 shown
  exact Table.contains_of_get? found

namespace ItemState

/-- After a plan was carried out its item may wait, and the others do as before. -/
theorem awaits?_carryOut (plan : ItemPlan) (state : ItemState) (id : Nat) :
    (plan.carryOut state).awaits? id = plan.awaits.elim (state.awaits? id)
      fun reference => if plan.id = id then some reference else state.awaits? id := by
  change (plan.marksAfter state.marks).pendingIcons.get? id = _
  rw [plan.pendingIcons_marksAfter]
  cases plan.awaits with
  | none => rfl
  | some reference => exact IdMap.get?_insert _ _ _ _

/-! ## One copy -/

/-- A state in which an item received the icon it waited for. -/
structure Copied (id : Nat) (icon : FieldValue) (before after : ItemState) : Prop where
  /-- The same items are present. -/
  present : ∀ other, after.tables.items.contains other = before.tables.items.contains other
  /-- The item shows the icon, and the others show what they showed. -/
  icons : ∀ other, after.icon? other = if id = other then some icon else before.icon? other
  /-- The item waits no more, and the others wait as before. -/
  waits : ∀ other, after.awaits? other = if id = other then none else before.awaits? other
  /-- One item less waits. -/
  fewer : after.marks.pendingIcons.size + 1 = before.marks.pendingIcons.size

/-- Trying to copy an icon changes nothing, or it gives the item the icon it waits for. -/
theorem retryIcon_cases (id : Nat) (state : ItemState) :
    retryIcon id state = (false, state) ∨
    ∃ reference icon, state.awaits? id = some reference ∧ state.icon? reference = some icon ∧
      (retryIcon id state).1 = true ∧ Copied id icon state (retryIcon id state).2 := by
  cases due : state.dueCopy? id with
  | none => exact .inl (retryIcon_of_not_due due)
  | some copy =>
    obtain ⟨rfl, waits, present, lender, lenderFound, icon⟩ := dueCopy?_eq_some_iff.1 due
    obtain ⟨record, found, made⟩ := retryIcon_of_due due
    have shown : state.icon? copy.reference = some (.asset copy.path) :=
      icon?_eq_some_iff.2 ⟨lender, copy.path, lenderFound, icon, rfl⟩
    have copied := iconsCopied_retryIcon copy.item state
    rw [due] at copied
    refine .inr ⟨copy.reference, .asset copy.path, waits, shown, by rw [made], ?_⟩
    rw [made] at copied ⊢
    exact ⟨fun other => Table.contains_set_of_present present _ _,
      fun other => iconOf?_set _ _ _ _, fun other => IdMap.get?_erase _ _ _, copied.fewer⟩

/-- An item that is present and waits for an icon that is shown receives it. -/
theorem retryIcon_of_shown {state : ItemState} {id reference : Nat} {icon : FieldValue}
    (waits : state.awaits? id = some reference)
    (present : state.tables.items.contains id = true)
    (shown : state.icon? reference = some icon) :
    (retryIcon id state).1 = true ∧ Copied id icon state (retryIcon id state).2 := by
  obtain ⟨lender, path, lenderFound, held, rfl⟩ := icon?_eq_some_iff.1 shown
  have due : state.dueCopy? id = some ⟨id, reference, path⟩ :=
    dueCopy?_eq_some_iff.2 ⟨rfl, waits, present, lender, lenderFound, held⟩
  have done : (retryIcon id state).1 = true := by rw [retryIcon_answer, due, Option.isSome_some]
  rcases retryIcon_cases id state with nothing | ⟨other, icon, waits', shown', _, copied⟩
  · rw [nothing] at done
    cases done
  · obtain rfl : reference = other := Option.some.inj (waits.symm.trans waits')
    obtain rfl := Option.some.inj (shown.symm.trans shown')
    exact ⟨done, copied⟩

/-! ## What copies keep -/

/-- What copies keep of the state before them. -/
structure Retried (before after : ItemState) : Prop where
  /-- The same items are present. -/
  present : ∀ id, after.tables.items.contains id = before.tables.items.contains id
  /-- No item begins to wait. -/
  waits : ∀ id reference, after.awaits? id = some reference → before.awaits? id = some reference
  /-- Only an item that stopped waiting shows another icon. -/
  icons : ∀ id, before.awaits? id = none ∨ after.awaits? id ≠ none →
    after.icon? id = before.icon? id
  /-- No icon is lost. -/
  shown : ∀ id, (before.icon? id).isSome = true → (after.icon? id).isSome = true

namespace Retried

variable {first middle last : ItemState}

/-- No copies keep everything. -/
theorem refl (state : ItemState) : Retried state state :=
  ⟨fun _ => rfl, fun _ _ waits => waits, fun _ _ => rfl, fun _ shown => shown⟩

/-- An item that did not wait does not wait later. -/
theorem free (retried : Retried first last) {id : Nat} (free : first.awaits? id = none) :
    last.awaits? id = none := by
  rw [Option.eq_none_iff_forall_ne_some]
  intro reference waits
  rw [retried.waits id reference waits] at free
  cases free

/-- What some copies and later ones keep all of them keep. -/
theorem trans (early : Retried first middle) (late : Retried middle last) :
    Retried first last := by
  refine ⟨fun id => (late.present id).trans (early.present id),
    fun id reference waits => early.waits id reference (late.waits id reference waits),
    fun id still => ?_, fun id shown => late.shown id (early.shown id shown)⟩
  have middleStill : (first.awaits? id = none ∨ middle.awaits? id ≠ none) ∧
      (middle.awaits? id = none ∨ last.awaits? id ≠ none) := by
    rcases still with free | waiting
    · exact ⟨.inl free, .inl (early.free free)⟩
    · obtain ⟨reference, waits⟩ := Option.ne_none_iff_exists'.1 waiting
      refine ⟨.inr ?_, .inr waiting⟩
      rw [late.waits id reference waits]
      exact Option.some_ne_none reference
  exact (late.icons id middleStill.2).trans (early.icons id middleStill.1)

end Retried

/-- Trying to copy one icon. -/
theorem retried_retryIcon (id : Nat) (state : ItemState) :
    Retried state (retryIcon id state).2 := by
  rcases retryIcon_cases id state with nothing | ⟨reference, icon, waits, shown, _, copied⟩
  · rw [nothing]
    exact .refl state
  · refine ⟨copied.present, fun other wanted waits' => ?_, fun other still => ?_,
      fun other seen => ?_⟩
    · rw [copied.waits] at waits'
      split at waits'
      · cases waits'
      · exact waits'
    · rw [copied.icons]
      split
      · rename_i same
        rw [copied.waits, if_pos same, ← same, waits] at still
        simp at still
      · rfl
    · rw [copied.icons]
      split
      · rfl
      · exact seen

/-- Trying to copy several icons. -/
theorem retried_retryEach (ids : List Nat) (state : ItemState) :
    Retried state (retryEach ids state).2 := by
  refine retryEach_keeps (Retried state) (fun id next kept => ?_) ids (.refl state)
  exact kept.trans (retried_retryIcon id next)

/-- Trying first some and then others is trying all of them. -/
theorem retryEach_append (front back : List Nat) (state : ItemState) :
    (retryEach (front ++ back) state).2 = (retryEach back (retryEach front state).2).2 := by
  induction front generalizing state with
  | nil => rfl
  | cons id rest ih => exact ih (retryIcon id state).2

/-- An item whose turn does not come waits as before. -/
theorem awaits?_retryEach {ids : List Nat} {id : Nat} (apart : id ∉ ids) (state : ItemState) :
    (retryEach ids state).2.awaits? id = state.awaits? id := by
  induction ids generalizing state with
  | nil => rfl
  | cons head rest ih =>
    rw [List.mem_cons, not_or] at apart
    refine (ih apart.2 (retryIcon head state).2).trans ?_
    rcases retryIcon_cases head state with nothing | ⟨_, _, _, _, _, copied⟩
    · rw [nothing]
    · rw [copied.waits, if_neg (Ne.symm apart.1)]

/-! ## Rounds -/

/-- The state after rounds of copies. -/
def retryRounds : Nat → ItemState → ItemState
  | 0, state => state
  | rounds + 1, state => retryRounds rounds (retryIcons state).2

/-- Rounds keep every property that trying to copy one icon keeps. -/
theorem retryRounds_keeps (property : ItemState → Prop)
    (kept : ∀ id state, property state → property (retryIcon id state).2) (rounds : Nat)
    {state : ItemState} (initially : property state) : property (retryRounds rounds state) := by
  induction rounds generalizing state with
  | zero => exact initially
  | succ rounds ih => exact ih (retryEach_keeps property kept _ initially)

/-- What rounds of copies keep. -/
theorem retried_retryRounds (rounds : Nat) (state : ItemState) :
    Retried state (retryRounds rounds state) := by
  refine retryRounds_keeps (Retried state) (fun id next kept => ?_) rounds (.refl state)
  exact kept.trans (retried_retryIcon id next)

/-- Every copy leaves one item less waiting. -/
theorem size_retryEach (ids : List Nat) (state : ItemState) :
    (retryEach ids state).2.marks.pendingIcons.size + (retryEach ids state).1 =
      state.marks.pendingIcons.size := by
  rw [retryEach_answer]
  exact (iconsCopied_retryEach ids state).fewer

/-- After as many rounds as items wait, at the latest, a round copies nothing. -/
theorem exists_quiet_round (state : ItemState) :
    ∃ rounds ≤ state.marks.pendingIcons.size, (retryIcons (retryRounds rounds state)).1 = 0 := by
  -- A round that copies something leaves fewer items waiting for the rounds after it.
  induction size : state.marks.pendingIcons.size using Nat.strongRecOn generalizing state with
  | ind count ih =>
    by_cases quiet : (retryIcons state).1 = 0
    · exact ⟨0, Nat.zero_le _, quiet⟩
    · have balance : (retryIcons state).2.marks.pendingIcons.size + (retryIcons state).1 =
          state.marks.pendingIcons.size := size_retryEach _ state
      obtain ⟨rounds, bound, done⟩ := ih _ (by omega) (retryIcons state).2 rfl
      exact ⟨rounds + 1, by omega, done⟩

/-- Where nothing is copied, no try does anything. -/
theorem retryIcon_of_quiet {ids : List Nat} {state : ItemState}
    (quiet : (retryEach ids state).1 = 0) :
    ∀ id ∈ ids, (retryIcon id state).1 = false := by
  induction ids with
  | nil =>
    intro id member
    cases member
  | cons head rest ih =>
    rw [retryEach] at quiet
    rcases retryIcon_cases head state with nothing | ⟨_, _, _, _, done, _⟩
    · simp only [nothing, Bool.false_eq_true, if_false, Nat.zero_add] at quiet
      intro id member
      rcases List.mem_cons.1 member with rfl | inRest
      · rw [nothing]
      · exact ih quiet id inRest
    · simp only [done, if_true] at quiet
      omega

/-- Where a round copies nothing, an item that is present waits only for an icon that is not
shown. -/
theorem awaits?_of_quiet {state : ItemState} (quiet : (retryIcons state).1 = 0) {id : Nat}
    (present : state.tables.items.contains id = true) {reference : Nat}
    (shown : (state.icon? reference).isSome = true) : state.awaits? id ≠ some reference := by
  intro waits
  obtain ⟨icon, shown⟩ := Option.isSome_iff_exists.1 shown
  have turn : id ∈ state.marks.pendingIcons.ids :=
    IdMap.mem_ids_of_contains (Option.isSome_iff_exists.2 ⟨reference, waits⟩)
  have idle := retryIcon_of_quiet quiet id turn
  rw [(retryIcon_of_shown waits present shown).1] at idle
  cases idle

/-- In a round, the turn of a waiting item comes between those of the items below it and those of
the items above it. -/
theorem exists_turn {state : ItemState} {id reference : Nat}
    (waits : state.awaits? id = some reference) :
    ∃ below above, state.marks.pendingIcons.ids = below ++ id :: above ∧
      (∀ other ∈ below, other < id) ∧ ∀ other ∈ above, id < other := by
  have turn : id ∈ state.marks.pendingIcons.ids :=
    IdMap.mem_ids_of_contains (Option.isSome_iff_exists.2 ⟨reference, waits⟩)
  obtain ⟨below, above, split⟩ := List.append_of_mem turn
  have ascending : state.marks.pendingIcons.ids.Pairwise (· < ·) :=
    List.pairwise_map.2 state.marks.pendingIcons.ascending
  rw [split, List.pairwise_append, List.pairwise_cons] at ascending
  obtain ⟨_, ⟨later, _⟩, across⟩ := ascending
  exact ⟨below, above, split, fun other member => across other member id List.mem_cons_self,
    later⟩

end ItemState

end Modpack
