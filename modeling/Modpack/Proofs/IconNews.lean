import Modpack.Proofs.IconRetries
import Modpack.Proofs.Turns
import Modpack.Proofs.Workshops

/-!
# News of icons

The history of a workshop brings news of the icon of an item: a pass made the item and its icon is
complete, a pass made it and the icon is still missing, or the missing icon was copied. An item
waits for the icon that was missing when it was last made without one, unless that was copied since.
News that the icon is complete does not end the waiting, so an item that was made again with its
icon goes on waiting; and an item whose key was taken by another goes on waiting as well. In every
other case the waiting items are those that they should be.
-/
namespace Modpack

/-- News of the icon of an item. -/
inductive IconNews where
  /-- A pass made the item, and its icon is complete. -/
  | furnished
  /-- A pass made the item, and the icon it borrows is still missing. -/
  | deferred (reference : Nat)
  /-- The missing icon was copied. -/
  | copied
deriving DecidableEq

/-- What an item waits for after news of its icon. -/
def IconNews.heard (awaited : Option Nat) : IconNews → Option Nat
  | furnished => awaited
  | deferred reference => some reference
  | copied => none

/-- What an item waits for that was last deferred or copied. -/
def IconNews.awaited? : IconNews → Option Nat
  | deferred reference => some reference
  | _ => none

/-- What an item waits for after all news is told from the last that did not find its icon
complete. -/
theorem foldl_heard (news : List IconNews) (awaited : Option Nat) :
    news.foldl IconNews.heard awaited =
      (news.filter (· ≠ .furnished)).getLast?.elim awaited IconNews.awaited? := by
  induction news using List.reverseRecOn with
  | nil => rfl
  | append_singleton news last ih =>
    rw [List.foldl_append, List.filter_append, ih]
    cases last <;> simp [IconNews.heard, IconNews.awaited?]

/-! ## Where news comes from -/

/-- The news of an item's icon in a turn. -/
def Turn.iconNews? (id : Nat) (turn : Turn ItemState ItemDefinition) : Option IconNews :=
  if turn.entry.id = id then
    match turn.outcome? with
    | some .injected => some .furnished
    | some .deferred => some (.deferred turn.entry.definition.referenceItemId)
    | _ => none
  else none

/-- The news of an item's icon while icons are copied. -/
def copyNews (id : Nat) : List Nat → ItemState → List IconNews
  | [], _ => []
  | other :: rest, state =>
    (if other = id ∧ (retryIcon other state).1 = true then [.copied] else []) ++
      copyNews id rest (retryIcon other state).2

namespace Workshop

/-- The news of an item's icon in an event. -/
def newsIn (ids : IdRanges) (workshop : Workshop) (id : Nat) : WorkshopEvent → List IconNews
  | .inject =>
    if workshop.state.tables.items.isReady then
      (turns (itemStep ids) workshop.registry.entries workshop.state).filterMap (Turn.iconNews? id)
    else []
  | .retry other => copyNews id [other] workshop.state
  | .retryAll => copyNews id workshop.state.marks.pendingIcons.ids workshop.state
  | .offer _ | .host _ => []

/-- The news of an item's icon in events, in order. -/
def news (ids : IdRanges) (workshop : Workshop) (id : Nat) : List WorkshopEvent → List IconNews
  | [] => []
  | event :: rest => workshop.newsIn ids id event ++ (workshop.step ids event).news ids id rest

end Workshop

/-! ## What an item waits for -/

/-- An icon that is missing is that of the item the definition borrows from. -/
theorem reference_of_iconSource {items : Table ItemRecord} {entry : Entry ItemDefinition}
    {reference : Nat} (awaited : iconSource items entry = .awaited reference) :
    entry.definition.referenceItemId = reference := by
  simp only [iconSource] at awaited
  split at awaited
  · split at awaited
    · cases awaited
    · exact IconSource.awaited.inj awaited
  · split at awaited <;> cases awaited

/-- A new item waits for the icon of the item it borrows from, if it waits at all. -/
theorem reference_of_awaits {ids : IdRanges} {items : Table ItemRecord}
    {entry : Entry ItemDefinition} {variant : ItemVariant} {record : ItemRecord} {reference : Nat}
    (awaits : (planAround ids items entry variant record).awaits = some reference) :
    entry.definition.referenceItemId = reference := by
  simp only [planAround] at awaits
  split at awaits
  · rename_i awaited
    rw [← Option.some.inj awaits]
    exact reference_of_iconSource awaited
  · cases awaits

/-- After a turn an item waits as the news of the turn tells. -/
theorem awaits?_after {ids : IdRanges} (turn : Turn ItemState ItemDefinition)
    (result : turn.result = itemStep ids turn.entry turn.state) (id : Nat) :
    turn.after.awaits? id =
      (turn.iconNews? id).toList.foldl IconNews.heard (turn.state.awaits? id) := by
  obtain ⟨entry, state, done⟩ := turn
  obtain rfl : done = itemStep ids entry state := result
  have steps := itemStep_turn ids entry state
  rw [Turn.after, Turn.iconNews?, Turn.outcome?]
  generalize itemStep ids entry state = done at steps ⊢
  cases steps with
  | targetMissing | baseMissing | upToDate | present => simp
  | patched =>
    rw [ite_self]
    rfl
  | made makes absent base record found accepted =>
    have borrowed {reference : Nat} :
        (planAround ids state.tables.items entry base.variant record).awaits = some reference →
          entry.definition.referenceItemId = reference := reference_of_awaits
    have number : (planAround ids state.tables.items entry base.variant record).id = entry.id :=
      rfl
    generalize planAround ids state.tables.items entry base.variant record = plan
      at borrowed number ⊢
    refine (ItemState.awaits?_carryOut plan state id).trans ?_
    rw [number]
    cases awaited : plan.awaits with
    | none =>
      have outcome : plan.outcome = .injected := by rw [ItemPlan.outcome, awaited]; rfl
      rw [outcome]
      by_cases same : entry.id = id <;> simp [same, IconNews.heard]
    | some reference =>
      have outcome : plan.outcome = .deferred := by rw [ItemPlan.outcome, awaited]; rfl
      rw [outcome, borrowed awaited]
      by_cases same : entry.id = id <;> simp [same, IconNews.heard]

/-- After a pass an item waits as the news of its turns tells. -/
theorem awaits?_runPass (ids : IdRanges) (entries : List (Entry ItemDefinition))
    (state : ItemState) (id : Nat) :
    (runPass (itemStep ids) entries state).state.awaits? id =
      ((turns (itemStep ids) entries state).filterMap (Turn.iconNews? id)).foldl IconNews.heard
        (state.awaits? id) := by
  induction entries generalizing state with
  | nil => rfl
  | cons entry rest ih =>
    have first := awaits?_after ⟨entry, state, itemStep ids entry state⟩ rfl id
    rw [runPass_cons_state, ih, first, turns, ← List.foldl_append]
    congr 1
    rw [List.filterMap_cons]
    cases (Turn.mk entry state (itemStep ids entry state)).iconNews? id <;> rfl

/-- After copies an item waits as the news of the copies tells. -/
theorem awaits?_copies (tried : List Nat) (state : ItemState) (id : Nat) :
    (retryEach tried state).2.awaits? id =
      (copyNews id tried state).foldl IconNews.heard (state.awaits? id) := by
  induction tried generalizing state with
  | nil => rfl
  | cons other rest ih =>
    have rest := ih (retryIcon other state).2
    change (retryEach _ (retryIcon other state).2).2.awaits? id = _
    rw [rest, copyNews, List.foldl_append]
    congr 1
    rcases ItemState.retryIcon_cases other state with nothing | ⟨_, _, _, _, done, copied⟩
    · rw [nothing, if_neg (by simp)]
      rfl
    · rw [copied.waits, done]
      by_cases same : other = id
      · rw [if_pos same, if_pos ⟨same, rfl⟩]
        rfl
      · rw [if_neg same, if_neg fun both => same both.1]
        rfl

namespace Workshop

/-- After an event an item waits as its news tells. -/
theorem awaits?_step (ids : IdRanges) (workshop : Workshop) (event : WorkshopEvent) (id : Nat) :
    (workshop.step ids event).state.awaits? id =
      (workshop.newsIn ids id event).foldl IconNews.heard (workshop.state.awaits? id) := by
  cases event with
  | offer | host => rfl
  | inject =>
    rw [step, newsIn]
    cases ready : workshop.state.tables.items.isReady with
    | false =>
      rw [inject_of_unready ready]
      rfl
    | true =>
      rw [inject_of_ready ready]
      exact awaits?_runPass ids workshop.registry.entries workshop.state id
  | retry other => exact awaits?_copies [other] workshop.state id
  | retryAll => exact awaits?_copies _ workshop.state id

/-- After events an item waits as its news tells. -/
theorem awaits?_run (ids : IdRanges) (workshop : Workshop) (events : List WorkshopEvent)
    (id : Nat) :
    (workshop.run ids events).state.awaits? id =
      (workshop.news ids id events).foldl IconNews.heard (workshop.state.awaits? id) := by
  induction events generalizing workshop with
  | nil => rfl
  | cons event rest ih =>
    rw [news, List.foldl_append, ← awaits?_step]
    exact ih (workshop.step ids event)

/-! ## Which items wait -/

/-- Every item that waits was offered, and waits for the icon it was said to borrow. -/
def OffersAwaited (base : Nat) (offers : List (Offer ItemDefinition)) (state : ItemState) : Prop :=
  ∀ id reference, state.awaits? id = some reference →
    ∃ earlier offer later, offers = earlier ++ offer :: later ∧ offer.makesRecord = true ∧
      offer.number base earlier = id ∧ offer.definition.referenceItemId = reference

/-- What was offered before more offers was offered. -/
theorem OffersAwaited.append {base : Nat} {offers : List (Offer ItemDefinition)}
    {state : ItemState} (awaited : OffersAwaited base offers state)
    (more : List (Offer ItemDefinition)) : OffersAwaited base (offers ++ more) state := by
  intro id reference waits
  obtain ⟨earlier, offer, later, split, rest⟩ := awaited id reference waits
  refine ⟨earlier, offer, later ++ more, ?_, rest⟩
  rw [split, List.append_assoc, List.cons_append]

/-- A step over an item that was offered lets only such items wait. -/
theorem OffersAwaited.itemStep {ids : IdRanges} {base : Nat} {offers : List (Offer ItemDefinition)}
    {state : ItemState} (awaited : OffersAwaited base offers state)
    {registry : Registry ItemDefinition}
    (built : registry.forget = ((Registry.empty base).offerAll offers).forget)
    {entry : Entry ItemDefinition} (member : entry ∈ registry.entries) {done : Step ItemState}
    (ok : itemStep ids entry state = .ok done) : OffersAwaited base offers done.state := by
  cases itemTurn_of_ok ok with
  | upToDate | present => exact awaited
  | patched => exact awaited
  | made makes absent base' record found accepted =>
    obtain ⟨earlier, offer, later, split, makesRecord, same⟩ :=
      (Registry.tallied_offerAll base offers).exists_offer built member makes
    have number : offer.number base earlier = entry.id := congrArg Entry.id same.symm
    have definition : offer.definition = entry.definition := congrArg Entry.definition same.symm
    intro id reference waits
    rw [ItemState.awaits?_carryOut] at waits
    cases source : (planAround ids state.tables.items entry base'.variant record).awaits with
    | none =>
      rw [source] at waits
      exact awaited id reference waits
    | some wanted =>
      simp only [source, Option.elim_some] at waits
      split at waits
      · rename_i isEntry
        refine ⟨earlier, offer, later, split, makesRecord, number.trans isEntry, ?_⟩
        rw [definition, reference_of_awaits source]
        exact Option.some.inj waits
      · exact awaited id reference waits

/-- Whatever happens to a workshop, the items that wait were offered. -/
theorem offersAwaited_run (ids : IdRanges) (base : Nat) (tables : Tables)
    (events : List WorkshopEvent) :
    OffersAwaited base (offers events) ((start base tables).run ids events).state := by
  induction events using List.reverseRecOn with
  | nil =>
    intro id reference waits
    cases waits
  | append_singleton events event ih =>
    have more := ih.append (offers [event])
    have built := run_registry ids (start base tables) events
    rw [run_append, offers_append]
    generalize (start base tables).run ids events = workshop at ih more built ⊢
    change OffersAwaited base _ (workshop.step ids event).state
    cases event with
    | offer | host => exact more
    | retry id =>
      intro other reference waits
      exact more other reference ((ItemState.retried_retryIcon id _).waits other reference waits)
    | retryAll =>
      intro other reference waits
      exact more other reference ((ItemState.retried_retryEach _ _).waits other reference waits)
    | inject =>
      rw [step]
      cases ready : workshop.state.tables.items.isReady with
      | false =>
        rw [inject_of_unready ready]
        exact more
      | true =>
        -- A pass is tried over the items offered before; it offers none itself.
        rw [inject_of_ready ready]
        refine OffersAwaited.append ?_ _
        exact runPass_keeps (OffersAwaited base (offers events))
          (fun entry member state done ok awaited => awaited.itemStep built member ok) ih

end Workshop

/-- News that does not end with a complete icon ends with the last of the other news. -/
theorem getLast?_of_filter {news : List IconNews} {last : IconNews}
    (other : (news.filter (· ≠ .furnished)).getLast? = some last)
    (missing : news.getLast? ≠ some .furnished) : news.getLast? = some last := by
  rcases List.eq_nil_or_concat' news with rfl | ⟨earlier, final, rfl⟩
  · cases other
  · rw [List.getLast?_concat] at missing ⊢
    have incomplete : final ≠ .furnished := fun same => missing (congrArg some same)
    rw [List.filter_append, List.filter_singleton, decide_eq_true incomplete, cond_true,
      List.getLast?_concat] at other
    exact other

/-- Whatever happens to a workshop that began without entries, an item waits for the icon that was
missing when it was last made without one, if that was not copied since. So an item that waits was
offered and borrows that icon. It is rightly among those that wait, being registered and, if it is
present, last made without the icon, exactly when its key was not taken again and it was not last
made with its icon complete. -/
theorem waits_rightly_iff (ids : IdRanges) (base : Nat) (tables : Tables)
    (events : List WorkshopEvent) (id reference : Nat) :
    let workshop := (Workshop.start base tables).run ids events
    let news := (Workshop.start base tables).news ids id events
    (workshop.state.awaits? id = some reference ↔
      (news.filter (· ≠ .furnished)).getLast? = some (.deferred reference)) ∧
    (workshop.state.awaits? id = some reference →
      ∃ earlier offer later, Workshop.offers events = earlier ++ offer :: later ∧
        offer.makesRecord = true ∧ offer.number base earlier = id ∧
        offer.definition.referenceItemId = reference ∧
        (workshop.registry.isRegistered id = true ∧
            (workshop.state.tables.items.contains id = true →
              news.getLast? = some (.deferred reference)) ↔
          (∀ next ∈ later, next.isTaken = true → next.key ≠ offer.key) ∧
            (workshop.state.tables.items.contains id = true →
              news.getLast? ≠ some .furnished))) := by
  intro workshop news
  have told : workshop.state.awaits? id = some reference ↔
      (news.filter (· ≠ .furnished)).getLast? = some (.deferred reference) := by
    have waits : workshop.state.awaits? id = news.foldl IconNews.heard none :=
      Workshop.awaits?_run ids (.start base tables) events id
    rw [waits, foldl_heard]
    cases (news.filter (· ≠ .furnished)).getLast? with
    | none => simp
    | some last => cases last <;> simp [IconNews.awaited?]
  refine ⟨told, fun waits => ?_⟩
  obtain ⟨earlier, offer, later, split, makes, number, borrows⟩ :=
    Workshop.offersAwaited_run ids base tables events id reference waits
  refine ⟨earlier, offer, later, split, makes, number, borrows, ?_⟩
  have registered : workshop.registry.isRegistered id = true ↔
      ∀ next ∈ later, next.isTaken = true → next.key ≠ offer.key := by
    have built := Workshop.run_registry ids (.start base tables) events
    have tallied := Registry.tallied_offerAll base (Workshop.offers events)
    rw [← number, ← tallied.isRegistered_iff split makes, ← Registry.isRegistered_forget, built,
      Registry.isRegistered_forget]
    rfl
  rw [registered]
  refine and_congr_right fun _ => forall_congr' fun _ => ⟨fun deferred complete => ?_, ?_⟩
  · rw [deferred] at complete
    cases complete
  · exact getLast?_of_filter (told.1 waits)

/-- An item that borrows the icon of the item offered next. -/
def kettle : Offer ItemDefinition :=
  { package := .inMemory "tea", definition := { id := "kettle", referenceItemId := 60001 } }

/-- An item with an icon of its own. -/
def stove : Offer ItemDefinition :=
  { package := .inMemory "tea", definition := { id := "stove", icon := "stove.png" } }

/-- A workshop with templates. -/
def kitchen : Workshop := .start 60000 Host.seeded.tables

/-- Before the item it borrows from is made, the first of these items rightly waits. -/
theorem kettle_waits_rightly :
    let events : List WorkshopEvent := [.offer kettle, .inject, .retryAll]
    (kitchen.run {} events).state.awaits? 60000 = some 60001 ∧
    ∃ earlier offer later, Workshop.offers events = earlier ++ offer :: later ∧
      offer.makesRecord = true ∧ offer.number 60000 earlier = 60000 ∧
      offer.definition.referenceItemId = 60001 ∧
      (∀ next ∈ later, next.isTaken = true → next.key ≠ offer.key) ∧
      (kitchen.news {} 60000 events).getLast? ≠ some .furnished := by
  intro events
  have waits : (kitchen.run {} events).state.awaits? 60000 = some 60001 := by decide
  obtain ⟨earlier, offer, later, split, makes, number, borrows, rightly⟩ :=
    (waits_rightly_iff {} 60000 Host.seeded.tables events 60000 60001).2 waits
  obtain ⟨last, incomplete⟩ := rightly.1 ⟨by decide, fun _ => by decide⟩
  exact ⟨waits, earlier, offer, later, split, makes, number, borrows, last,
    incomplete (by decide)⟩

/-- What happens until both items are made, the first without its icon. -/
def teaEvents : List WorkshopEvent := [.offer kettle, .inject, .offer stove, .inject]

/-- The tables after that, with the record of the first item taken out. -/
def kettleless : Tables :=
  let tables := (kitchen.run {} teaEvents).state.tables
  { tables with items := tables.items.remove 60000 }

/-- An item that is made again, now with its icon, goes on waiting for it; and so does an item whose
key was taken by another. -/
theorem kettle_waits_in_vain :
    let remade := teaEvents ++ [.host kettleless, .inject]
    let replaced : List WorkshopEvent := [.offer kettle, .inject, .offer kettle]
    (kitchen.run {} remade).state.awaits? 60000 = some 60001 ∧
    (kitchen.run {} remade).state.tables.items.contains 60000 = true ∧
    (kitchen.news {} 60000 remade).getLast? = some .furnished ∧
    (kitchen.run {} replaced).state.awaits? 60000 = some 60001 ∧
    (kitchen.run {} replaced).registry.isRegistered 60000 = false := by
  decide

end Modpack
