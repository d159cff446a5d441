import Modpack.Proofs.IconRetries
import Modpack.Proofs.Numbering

/-!
# Borrowed icons

A new item that borrows an icon gets it at once when the icon is there. Otherwise it waits, and
until a round of copies reaches it, it shows the icon of the record it was made after. Another item
that borrows from it in the meantime gets that icon and keeps it. So after the last round an item
shows the icon of the item it borrows from exactly when it copied that icon in time, or when the
icon it copied happens to be the final one.
-/
namespace Modpack

/-! ## Making a new item -/

/-- A new item that is given an icon shows it. -/
theorem icon_of_newWrites {ids : IdRanges} {items : Table ItemRecord}
    {entry : Entry ItemDefinition} {base record : ItemRecord} {icon : FieldValue}
    (accepted : base.setAll (newWrites ids items entry base.variant) = .ok record)
    (given : iconSource items entry = .given icon) : record.get? .icon = some icon := by
  have own := iconSource_writes_own_types items entry (.icon, icon)
  rw [newWrites, given, IconSource.writes, List.append_assoc] at accepted
  rw [given, IconSource.writes] at own
  refine ItemRecord.get?_of_setAll_append accepted (own (List.mem_singleton_self _)) rfl ?_
  unfold ItemDefinition.kindWrites
  split
  · simp
  · simp
  · split <;> simp
  · simp

/-- Where a borrowed icon comes from. -/
theorem iconSource_of_reference (items : Table ItemRecord) {entry : Entry ItemDefinition}
    (borrows : 0 < entry.definition.referenceItemId) :
    iconSource items entry = match iconOf? items entry.definition.referenceItemId with
      | some icon => .given icon
      | none => .awaited entry.definition.referenceItemId := by
  unfold iconSource
  refine (if_pos borrows).trans ?_
  cases iconOf? items entry.definition.referenceItemId <;> rfl

namespace ItemState

/-- A state in which a new item was made. -/
structure Made (entry : Entry ItemDefinition) (before after : ItemState) : Prop where
  /-- The item is present, and so are those that were. -/
  present : ∀ id, after.tables.items.contains id =
    (entry.id == id || before.tables.items.contains id)
  /-- The other items show what they showed and wait as before. -/
  others : ∀ id, entry.id ≠ id →
    after.icon? id = before.icon? id ∧ after.awaits? id = before.awaits? id
  /-- A borrowed icon that is there is shown. -/
  shows : 0 < entry.definition.referenceItemId → ∀ icon,
    before.icon? entry.definition.referenceItemId = some icon →
    after.icon? entry.id = some icon ∧ after.awaits? entry.id = before.awaits? entry.id
  /-- A borrowed icon that is not there is waited for. -/
  awaits : 0 < entry.definition.referenceItemId →
    before.icon? entry.definition.referenceItemId = none →
    after.awaits? entry.id = some entry.definition.referenceItemId

/-- The step of a new item changes nothing or makes the item. -/
theorem itemStep_cases {ids : IdRanges} {entry : Entry ItemDefinition} {state : ItemState}
    {done : Step ItemState} (ok : itemStep ids entry state = .ok done)
    (makes : entry.isPatch = false) :
    done.state = state ∨
      state.tables.items.contains entry.id = false ∧ Made entry state done.state := by
  cases itemTurn_of_ok ok with
  | upToDate patches | patched patches =>
    rw [makes] at patches
    cases patches
  | present => exact .inl rfl
  | made _ absent base record found accepted =>
    let plan := planAround ids state.tables.items entry base.variant record
    have icon (id : Nat) : (plan.carryOut state).icon? id =
        if entry.id = id then record.get? .icon else state.icon? id := by
      change iconOf? (state.tables.items.set entry.id (plan.finished state.tables.lists).1) id = _
      rw [iconOf?_set, plan.get?_finished]
      rfl
    have waits := awaits?_carryOut plan state
    refine .inr ⟨absent, fun id => Table.contains_set _ _ _ _, fun id apart => ⟨?_, ?_⟩,
      fun borrows shown there => ⟨?_, ?_⟩, fun borrows missing => ?_⟩
    · exact (icon id).trans (if_neg apart)
    · rw [waits]
      cases plan.awaits with
      | none => rfl
      | some reference => exact if_neg apart
    · have given := iconSource_of_reference state.tables.items borrows
      rw [icon?] at there
      rw [there] at given
      exact (icon entry.id).trans ((if_pos rfl).trans (icon_of_newWrites accepted given))
    · have given := iconSource_of_reference state.tables.items borrows
      rw [icon?] at there
      rw [there] at given
      have nothing : plan.awaits = none := by
        simp only [plan, planAround, given]
      rw [waits, nothing]
      rfl
    · have awaited := iconSource_of_reference state.tables.items borrows
      rw [icon?] at missing
      rw [missing] at awaited
      have lender : plan.awaits = some entry.definition.referenceItemId := by
        simp only [plan, planAround, awaited]
      rw [waits, lender]
      exact if_pos rfl

/-! ## After the pass -/

/-- Every item that was made since, and borrows an icon, waits for it or shows it. -/
structure Lent (before : Table ItemRecord) (entries : List (Entry ItemDefinition))
    (state : ItemState) : Prop where
  /-- Items that wait are present. -/
  waiting : ∀ id reference, state.awaits? id = some reference →
    state.tables.items.contains id = true
  /-- An item that was not there before and borrows an icon waits for it or shows it. -/
  borrowed : ∀ entry ∈ entries, before.contains entry.id = false →
    state.tables.items.contains entry.id = true → 0 < entry.definition.referenceItemId →
    state.awaits? entry.id = some entry.definition.referenceItemId ∨
      state.awaits? entry.id = none ∧ ∃ icon, state.icon? entry.id = some icon ∧
        state.icon? entry.definition.referenceItemId = some icon

section Pass

variable {before : Table ItemRecord} {entries : List (Entry ItemDefinition)}
  (makes : ∀ entry ∈ entries, entry.isPatch = false)
  (distinct : ∀ left ∈ entries, ∀ right ∈ entries, left.id = right.id → left = right)
include makes distinct

/-- A step lets every item that borrows an icon wait for it or show it. -/
theorem Lent.itemStep {ids : IdRanges} {state : ItemState} (lent : state.Lent before entries)
    {entry : Entry ItemDefinition} (member : entry ∈ entries) {done : Step ItemState}
    (ok : itemStep ids entry state = .ok done) : done.state.Lent before entries := by
  rcases itemStep_cases ok (makes entry member) with same | ⟨absent, made⟩
  · rw [same]
    exact lent
  have free : state.awaits? entry.id = none := by
    rw [Option.eq_none_iff_forall_ne_some]
    intro reference waits
    rw [lent.waiting _ _ waits] at absent
    cases absent
  -- An icon that was there before is not that of the new item.
  have apart {id : Nat} {icon : FieldValue} (there : state.icon? id = some icon) :
      entry.id ≠ id := by
    intro same
    rw [same, contains_of_iconOf? there] at absent
    cases absent
  refine ⟨fun id reference waits => ?_, fun other otherMember new there borrows => ?_⟩
  · rw [made.present]
    by_cases same : entry.id = id
    · rw [same, beq_self_eq_true, Bool.true_or]
    · rw [(made.others id same).2] at waits
      rw [lent.waiting id reference waits, Bool.or_true]
  · by_cases same : entry.id = other.id
    · obtain rfl := distinct entry member other otherMember same
      cases shown : state.icon? entry.definition.referenceItemId with
      | none => exact .inl (made.awaits borrows shown)
      | some icon =>
        obtain ⟨shows, waits⟩ := made.shows borrows icon shown
        refine .inr ⟨waits.trans free, icon, shows, ?_⟩
        rw [(made.others _ (apart shown)).1, shown]
    · obtain ⟨sameIcon, sameWait⟩ := made.others other.id same
      rw [made.present, beq_eq_false_iff_ne.2 same, Bool.false_or] at there
      rcases lent.borrowed other otherMember new there borrows with
        waits | ⟨ready, icon, own, lender⟩
      · exact .inl (sameWait.trans waits)
      · refine .inr ⟨sameWait.trans ready, icon, sameIcon.trans own, ?_⟩
        rw [(made.others _ (apart lender)).1, lender]

/-- After a pass every item that borrows an icon waits for it or shows it. -/
theorem lent_runPass (ids : IdRanges) {state : ItemState} (lent : state.Lent before entries) :
    (runPass (Modpack.itemStep ids) entries state).state.Lent before entries :=
  runPass_keeps (fun state : ItemState => state.Lent before entries)
    (fun _ member _ _ ok lent => lent.itemStep makes distinct member ok) lent

end Pass

/-! ## After the last round -/

/-- An item is given its icon in time: the lender has its own icon before the item copies it. -/
def InTime (state : ItemState) (id lender : Nat) : Prop :=
  state.awaits? lender = none ∨ state.icon? lender = none ∨
    state.awaits? id ≠ none ∧ lender < id ∧ (retryIcons state).2.awaits? lender = none

/-- Where an item stands that waited for a lender: it waits still, or it shows the lender's icon and
neither of them waits. -/
inductive Settling (id lender : Nat) (now : ItemState) : Prop where
  /-- The item waits for its lender. -/
  | waiting (waits : now.awaits? id = some lender)
  /-- The item shows the lender's icon. -/
  | alike (ready : now.awaits? id = none) (lenderReady : now.awaits? lender = none)
    (same : now.icon? id = now.icon? lender)

section Rounds

variable {state : ItemState} {id lender : Nat}

/-- A lender that did not wait at first, or showed no icon, does not wait once its icon is shown. -/
theorem Retried.lender_ready {now : ItemState} (retried : Retried state now)
    (settled : state.awaits? lender = none ∨ state.icon? lender = none) {icon : FieldValue}
    (shown : now.icon? lender = some icon) : now.awaits? lender = none := by
  rcases settled with free | blank
  · exact retried.free free
  · by_contra waits
    rw [retried.icons lender (.inr waits), blank] at shown
    cases shown

/-- Trying to copy one icon lets an item wait for its lender, or show the lender's icon. -/
theorem Settling.retryIcon {now : ItemState} (settling : Settling id lender now)
    (lends : ∀ icon, now.icon? lender = some icon → now.awaits? lender = none) (turn : Nat) :
    Settling id lender (Modpack.retryIcon turn now).2 := by
  have next := retried_retryIcon turn now
  cases settling with
  | waiting waits =>
    rcases retryIcon_cases turn now with nothing | ⟨reference, icon, turnWaits, shown, _, copied⟩
    · rw [nothing]
      exact .waiting waits
    by_cases here : turn = id
    · subst here
      obtain rfl : lender = reference := Option.some.inj (waits.symm.trans turnWaits)
      have lenderReady := lends icon shown
      have apart : turn ≠ lender := by
        intro same
        rw [← same, waits] at lenderReady
        cases lenderReady
      refine .alike ?_ (next.free lenderReady) ?_
      · rw [copied.waits, if_pos rfl]
      · rw [copied.icons, if_pos rfl, copied.icons, if_neg apart, shown]
    · refine .waiting ?_
      rw [copied.waits, if_neg here, waits]
  | alike ready lenderReady same =>
    refine .alike (next.free ready) (next.free lenderReady) ?_
    rw [next.icons id (.inl ready), next.icons lender (.inl lenderReady), same]

/-- An item that waits for a lender that does not wait itself, or shows no icon yet, has the
lender's icon from its copy on. -/
theorem settling_retryRounds (settled : state.awaits? lender = none ∨ state.icon? lender = none)
    (waits : state.awaits? id = some lender) (rounds : Nat) :
    Settling id lender (retryRounds rounds state) := by
  have kept : Retried state (retryRounds rounds state) ∧
      Settling id lender (retryRounds rounds state) := by
    refine retryRounds_keeps (fun now => Retried state now ∧ Settling id lender now) ?_ rounds
      ⟨.refl state, .waiting waits⟩
    rintro turn now ⟨retried, settling⟩
    exact ⟨retried.trans (retried_retryIcon turn now),
      settling.retryIcon (fun _ shown => retried.lender_ready settled shown) turn⟩
  exact kept.2

/-- An item that waits for an icon that is shown copies it in the first round, in its turn. -/
theorem icon?_of_first_round (waits : state.awaits? id = some lender)
    (present : state.tables.items.contains id = true)
    (shown : (state.icon? lender).isSome = true) {final : ItemState}
    (later : Retried (retryIcons state).2 final) :
    ∃ now, final.icon? id = now.icon? lender ∧ Retried state now ∧ Retried now final ∧
      (id ≤ lender → now.awaits? lender = state.awaits? lender) ∧
      (lender < id → now.awaits? lender = (retryIcons state).2.awaits? lender) := by
  obtain ⟨below, above, turns, low, high⟩ := exists_turn waits
  let now := (retryEach below state).2
  have before : Retried state now := retried_retryEach below state
  have round : (retryIcons state).2 = (retryEach above (retryIcon id now).2).2 := by
    rw [retryIcons, turns, retryEach_append]
    rfl
  have notBelow : id ∉ below := fun member => Nat.lt_irrefl id (low id member)
  have waitsNow : now.awaits? id = some lender := (awaits?_retryEach notBelow state).trans waits
  obtain ⟨icon, shownNow⟩ := Option.isSome_iff_exists.1 (before.shown lender shown)
  obtain ⟨_, copied⟩ := retryIcon_of_shown waitsNow ((before.present id).trans present) shownNow
  have ready : (retryIcon id now).2.awaits? id = none := by rw [copied.waits, if_pos rfl]
  have after : Retried (retryIcon id now).2 final := by
    rw [round] at later
    exact (retried_retryEach above _).trans later
  refine ⟨now, ?_, before, (retried_retryIcon id now).trans after, fun notLess => ?_,
    fun less => ?_⟩
  · rw [after.icons id (.inl ready), copied.icons, if_pos rfl]
    exact shownNow.symm
  · refine awaits?_retryEach (fun member => ?_) state
    have := low lender member
    omega
  · have notAbove : lender ∉ above := by
      intro member
      have := high lender member
      omega
    rw [round, awaits?_retryEach notAbove, copied.waits, if_neg (by omega)]

/-- An item that waits for a lender that waits itself shows the lender's own icon if it was given it
in time, and otherwise the one the lender showed while both waited. -/
theorem icon?_of_lender_waits (waits : state.awaits? id = some lender)
    (present : state.tables.items.contains id = true) (lenderWaits : state.awaits? lender ≠ none)
    (lenderShown : state.icon? lender ≠ none) {final : ItemState}
    (later : Retried (retryIcons state).2 final) :
    (state.InTime id lender → final.icon? id = final.icon? lender) ∧
      (¬ state.InTime id lender → final.icon? id = state.icon? lender) := by
  obtain ⟨now, same, before, after, unreached, reached⟩ :=
    icon?_of_first_round waits present (Option.isSome_iff_ne_none.2 lenderShown) later
  rw [same]
  refine ⟨fun inTime => ?_, fun late => ?_⟩
  · rcases inTime with free | blank | ⟨_, less, free⟩
    · exact absurd free lenderWaits
    · exact absurd blank lenderShown
    · exact (after.icons _ (.inl ((reached less).trans free))).symm
  · -- Either the lender's turn comes later, or the first round leaves it waiting.
    refine before.icons _ (.inr ?_)
    by_cases less : lender < id
    · intro free
      rw [reached less] at free
      refine late (.inr (.inr ⟨?_, less, free⟩))
      rw [waits]
      exact Option.some_ne_none _
    · rw [unreached (Nat.le_of_not_lt less)]
      exact lenderWaits

variable {before : Table ItemRecord} {entries : List (Entry ItemDefinition)}
  (lent : state.Lent before entries) {entry : Entry ItemDefinition} (member : entry ∈ entries)
  (new : before.contains entry.id = false)
  (present : state.tables.items.contains entry.id = true)
  (borrows : 0 < entry.definition.referenceItemId) {rounds : Nat}
  (quiet : (retryIcons (retryRounds rounds state)).1 = 0)
  (shown : ((retryRounds rounds state).icon? entry.definition.referenceItemId).isSome = true)
include lent member new present borrows quiet shown

/-- After the last round an item does not wait for an icon that is shown. -/
theorem Lent.awaits?_of_quiet : (retryRounds rounds state).awaits? entry.id = none := by
  have retried := retried_retryRounds rounds state
  have present' := (retried.present entry.id).trans present
  rw [Option.eq_none_iff_forall_ne_some]
  intro reference waits
  have start := retried.waits _ _ waits
  rcases lent.borrowed entry member new present borrows with wanted | ⟨ready, _⟩
  · obtain rfl := Option.some.inj (start.symm.trans wanted)
    exact ItemState.awaits?_of_quiet quiet present' shown waits
  · rw [ready] at start
    cases start

/-- After the last round an item that was given its icon in time shows it, and another one shows
what the lender showed before the first. -/
theorem Lent.icon?_of_quiet :
    (state.InTime entry.id entry.definition.referenceItemId →
      (retryRounds rounds state).icon? entry.id =
        (retryRounds rounds state).icon? entry.definition.referenceItemId) ∧
    (¬ state.InTime entry.id entry.definition.referenceItemId →
      (retryRounds rounds state).icon? entry.id =
        state.icon? entry.definition.referenceItemId) := by
  have retried := retried_retryRounds rounds state
  have ready := lent.awaits?_of_quiet member new present borrows quiet shown
  rcases lent.borrowed entry member new present borrows with waits | ⟨free, icon, own, lends⟩
  · by_cases settled : state.awaits? entry.definition.referenceItemId = none ∨
        state.icon? entry.definition.referenceItemId = none
    · refine ⟨fun _ => ?_, fun late => absurd (settled.imp_right .inl) late⟩
      cases settling_retryRounds settled waits rounds with
      | waiting still =>
        rw [ready] at still
        cases still
      | alike _ _ same => exact same
    · obtain ⟨lenderWaits, lenderShown⟩ := not_or.1 settled
      have later : Retried (retryIcons state).2 (retryRounds rounds state) := by
        cases rounds with
        | zero => exact absurd waits (ItemState.awaits?_of_quiet quiet present shown)
        | succ rounds => exact retried_retryRounds rounds _
      exact icon?_of_lender_waits waits present lenderWaits lenderShown later
  · rw [retried.icons entry.id (.inl free), own, ← lends]
    refine ⟨fun inTime => ?_, fun _ => rfl⟩
    rcases inTime with free' | blank | ⟨waits, _⟩
    · exact (retried.icons _ (.inl free')).symm
    · rw [lends] at blank
      cases blank
    · exact absurd free waits

end Rounds

end ItemState

/-- Inject new items into a table that is ready, and copy missing icons in rounds. The rounds come
to an end. After the last one, an item that the pass inserted and that borrows an icon shows the one
its lender shows exactly when it was given it in time, or when the lender's icon is the one it
showed before the first round; an item that was not keeps the icon the lender showed then. -/
theorem borrowed_icon_iff (ids : IdRanges) (offers : List (Offer ItemDefinition))
    (tables : Tables) (bags : IdMap Unit) :
    let registry := (Registry.empty ids.itemBase).offerAll offers
    (∀ entry ∈ registry.entries, entry.isPatch = false) →
    tables.items.isReady = true →
    ∃ pass, injectItems ids registry ⟨tables, ⟨.empty, bags⟩⟩ = .ok pass ∧
      (∃ rounds ≤ pass.state.marks.pendingIcons.size,
        (retryIcons (pass.state.retryRounds rounds)).1 = 0) ∧
      ∀ rounds, (retryIcons (pass.state.retryRounds rounds)).1 = 0 →
        ∀ entry ∈ registry.entries, tables.items.contains entry.id = false →
          pass.state.tables.items.contains entry.id = true →
          let lender := entry.definition.referenceItemId
          let final := pass.state.retryRounds rounds
          0 < lender → (final.icon? lender).isSome = true →
          final.awaits? entry.id = none ∧
          (final.icon? entry.id = final.icon? lender ↔
            pass.state.InTime entry.id lender ∨
              pass.state.icon? lender = final.icon? lender) ∧
          (¬ pass.state.InTime entry.id lender →
            final.icon? entry.id = pass.state.icon? lender) := by
  intro registry makes ready
  have tallied : registry.Tallied ids.itemBase offers := Registry.tallied_offerAll _ _
  have distinct : ∀ left ∈ registry.entries, ∀ right ∈ registry.entries, left.id = right.id →
      left = right := fun left leftMember right rightMember =>
    tallied.indexed.eq_of_id_eq leftMember rightMember (makes left leftMember)
      (makes right rightMember)
  have lent : ItemState.Lent tables.items registry.entries ⟨tables, ⟨.empty, bags⟩⟩ := by
    refine ⟨fun id reference waits => ?_, fun entry _ new there => ?_⟩
    · cases waits
    · rw [new] at there
      cases there
  refine ⟨runPass (itemStep ids) registry.entries ⟨tables, ⟨.empty, bags⟩⟩, ?_,
    ItemState.exists_quiet_round _, ?_⟩
  · rw [injectItems, if_pos ready]
  · intro rounds quiet entry member new present lender final borrows shown
    have lentAfter := ItemState.lent_runPass makes distinct ids lent
    have waits := lentAfter.awaits?_of_quiet member new present borrows quiet shown
    obtain ⟨inTime, late⟩ := lentAfter.icon?_of_quiet member new present borrows quiet shown
    refine ⟨waits, ⟨fun same => ?_, ?_⟩, late⟩
    · by_contra neither
      obtain ⟨notInTime, changed⟩ := not_or.1 neither
      exact changed ((late notInTime).symm.trans same)
    · rintro (given | unchanged)
      · exact inTime given
      · by_contra differs
        exact differs ((late fun given => differs (inTime given)).trans unchanged)

/-- The items of one package, each borrowing the icon of the next; the last borrows that of a
template. -/
def relayOffers : List (Offer ItemDefinition) :=
  [{ id := "first", referenceItemId := 60001 }, { id := "second", referenceItemId := 60002 },
    { id := "third", referenceItemId := 3 }].map fun item =>
      { package := .inMemory "relay", definition := item }

/-- The registry of these items. -/
def relayRegistry : Registry ItemDefinition := (Registry.empty 60000).offerAll relayOffers

/-- The state after their pass. -/
def relayState : ItemState :=
  (runPass (itemStep {}) relayRegistry.entries ⟨Host.seeded.tables, .empty⟩).state

/-- Once the rounds have come to an end, the second of these items was given its icon in time. -/
theorem relay_second_icon :
    (∀ entry ∈ relayRegistry.entries, entry.isPatch = false) ∧
    Host.seeded.tables.items.isReady = true ∧
    Host.seeded.tables.items.contains 60001 = false ∧
    ∃ pass, injectItems {} relayRegistry ⟨Host.seeded.tables, .empty⟩ = .ok pass ∧
      (retryIcons (pass.state.retryRounds 1)).1 = 0 ∧
      pass.state.tables.items.contains 60001 = true ∧
      ((pass.state.retryRounds 1).icon? 60002).isSome = true ∧
      pass.state.InTime 60001 60002 ∧
      (pass.state.retryRounds 1).icon? 60001 = (pass.state.retryRounds 1).icon? 60002 := by
  have makes : ∀ entry ∈ relayRegistry.entries, entry.isPatch = false := by decide
  obtain ⟨pass, injected, _, result⟩ :=
    borrowed_icon_iff {} relayOffers Host.seeded.tables .empty makes (by decide)
  obtain rfl : runPass (itemStep {}) relayRegistry.entries ⟨Host.seeded.tables, .empty⟩ = pass :=
    Except.ok.inj injected
  have settled : relayState.InTime 60001 60002 := .inl (by decide)
  obtain ⟨_, shows, _⟩ := result 1 (by decide) relayRegistry.entries[1] (List.getElem_mem _)
    (by decide) (by decide) (by decide) (by decide)
  exact ⟨makes, by decide, by decide, _, injected, by decide, by decide, by decide, settled,
    shows.2 (.inl settled)⟩

/-- The first of these items copies the icon that the second one shows while it waits, and keeps it
after the second one has received its own. -/
theorem relay_first_icon :
    (∀ entry ∈ relayRegistry.entries, entry.isPatch = false) ∧
    Host.seeded.tables.items.isReady = true ∧
    (∀ id ∈ Host.seeded.tables.items.ids, id < 60000) ∧
    (injectItems {} relayRegistry ⟨Host.seeded.tables, .empty⟩).map Pass.state = .ok relayState ∧
    (retryIcons (relayState.retryRounds 1)).1 = 0 ∧
    (relayRegistry.byKey? "relay:first").map (fun entry =>
      (entry.id, entry.definition.referenceItemId)) = some (60000, 60001) ∧
    Host.seeded.tables.items.contains 60000 = false ∧
    relayState.tables.items.contains 60000 = true ∧
    (relayState.retryRounds 1).icon? 60001 = some (.asset "vanilla/weapon.png") ∧
    (relayState.retryRounds 1).icon? 60000 = some (.asset "vanilla/consumable.png") := by
  refine ⟨by decide, by decide, by decide, rfl, by decide, by decide, by decide, by decide,
    by decide, by decide⟩

end Modpack
