import Mathlib.Data.List.Induction
import Modpack.Proofs.History
import Modpack.Proofs.IconRetries
import Modpack.Proofs.ItemLabels
import Modpack.Proofs.Likeness
import Modpack.Proofs.Numbering
import Modpack.Proofs.Templates

/-!
# Display strings along a session

In a session the engine may be asked for anything it does, while the host drops its tables, takes
records out and lives on. A number is given out once, so every item ever inserted under it is of the
same definition; and string keys of different numbers are apart, as long as numbers and keys fit 32
bits. So the record of an item that is there has its own number and keys, and the strings of an item
that was ever inserted are its name and its description from then on. What is in the item table is
what the host had or put there itself, or was inserted and not dropped since.
-/
namespace Modpack

/-- Something that happens in a session. -/
inductive SessionEvent where
  /-- The host calls the engine, reloads its tables or takes a record out. -/
  | event (event : Event)
  /-- The host takes all item records out. -/
  | clearItems
  /-- The host takes all recipe records out. -/
  | clearRecipes
  /-- The graph of a quest is asked for. -/
  | graph (quest : String)
  /-- A stat gets another name. -/
  | rename (name : String) (stat : Stat)
  /-- The stats, the quests and the known recipes of the host become others, through the use of an
  item or otherwise. -/
  | live (stats : StatStore) (quests : QuestLog) (book : IdMap Unit)

namespace SessionEvent

/-- The packages an event registers. -/
def registered : SessionEvent → List Package
  | .event happened => happened.registered
  | _ => []

/-- Whether the host drops the record of an item. -/
def Drops (id : Nat) : SessionEvent → Prop
  | .event .reload | .clearItems => True
  | .event (.removeItem other) => other = id
  | _ => False

/-- None of some events drops the record of an item. -/
def Spare (events : List SessionEvent) (id : Nat) : Prop :=
  ∀ event ∈ events, ¬ event.Drops id

/-- Events spare a record together with one more that does. -/
theorem Spare.concat {events : List SessionEvent} {event : SessionEvent} {id : Nat}
    (spared : Spare events id) (spares : ¬ event.Drops id) : Spare (events ++ [event]) id := by
  intro next member
  rcases List.mem_append.1 member with early | last
  · exact spared next early
  · rw [List.mem_singleton.1 last]
    exact spares

end SessionEvent

/-- The items of a package, as it offers them. -/
def Package.itemOffers (package : Package) : List (Offer ItemDefinition) :=
  package.items.map fun item => ⟨package.info, item⟩

/-- The items that events offer, in order. -/
def SessionEvent.offers (events : List SessionEvent) : List (Offer ItemDefinition) :=
  (events.flatMap SessionEvent.registered).flatMap Package.itemOffers

/-- Events offer their items in order. -/
theorem SessionEvent.offers_append (earlier later : List SessionEvent) :
    offers (earlier ++ later) = offers earlier ++ offers later := by
  rw [offers, List.flatMap_append, List.flatMap_append]
  rfl

/-- Registering packages offers their items to the registry of items. -/
theorem Engine.registerAll_offers (engine : Engine) (packages : List Package) :
    (engine.registerAll packages).items =
      engine.items.offerAll (packages.flatMap Package.itemOffers) := by
  induction packages generalizing engine with
  | nil => rfl
  | cons package rest ih =>
    obtain ⟨catalog, same⟩ := registerPackage_engine engine package
    have first : (engine.registerPackage package).engine.items =
        engine.items.offerAll package.itemOffers := by
      rw [same, Package.itemOffers, Registry.offerAll, List.foldl_map]
      rfl
    rw [List.flatMap_cons, Registry.offerAll_append, ← first]
    exact ih (engine.registerPackage package).engine

namespace World

/-- The world after an event of a session. -/
def attend (world : World) : SessionEvent → World
  | .event event => world.step event
  | .clearItems => { world with host.tables.items := world.host.tables.items.clear }
  | .clearRecipes => { world with host.tables.recipes := world.host.tables.recipes.clear }
  | .graph quest => { world with engine := (world.engine.questGraph? quest).2 }
  | .rename name stat => { world with engine := world.engine.registerAlias name stat }
  | .live stats quests book => { world with host := { world.host with stats, quests, book } }

/-- The world after the events of a session, in order. -/
def session (world : World) (events : List SessionEvent) : World :=
  events.foldl attend world

/-- One more event goes on where the events before it ended. -/
theorem session_append_singleton (world : World) (events : List SessionEvent)
    (event : SessionEvent) :
    world.session (events ++ [event]) = (world.session events).attend event :=
  List.foldl_append

/-! ## Numbers -/

/-- An event adds the items it offers to the content of the registry and nothing else. -/
theorem attend_items (world : World) (event : SessionEvent) :
    (world.attend event).engine.ids = world.engine.ids ∧
      (world.attend event).engine.items.forget =
        (world.engine.items.offerAll (SessionEvent.offers [event])).forget := by
  cases event with
  | event event =>
    have same := step_sameContent (.refl world.engine) event
    refine ⟨same.ids.trans (Engine.registerAll_frame _ _).1, ?_⟩
    rw [SessionEvent.offers, List.flatMap_singleton, ← Engine.registerAll_offers]
    exact same.items
  | clearItems | clearRecipes | graph | rename | live => exact ⟨rfl, rfl⟩

/-- After a session the registry has the content that its offers lead to. -/
theorem session_items (ids : IdRanges) (host : Host) (events : List SessionEvent) :
    ((World.start ids host).session events).engine.ids = ids ∧
      ((World.start ids host).session events).engine.items.forget =
        ((Registry.empty ids.itemBase).offerAll (SessionEvent.offers events)).forget := by
  induction events using List.reverseRecOn with
  | nil => exact ⟨rfl, rfl⟩
  | append_singleton events event ih =>
    obtain ⟨sameIds, items⟩ := attend_items ((World.start ids host).session events) event
    rw [session_append_singleton, SessionEvent.offers_append, Registry.offerAll_append,
      Registry.offerAll_forget, ← ih.2, ← Registry.offerAll_forget]
    exact ⟨sameIds.trans ih.1, items⟩

/-- The counter of items is in range, and all their string keys fit 32 bits. -/
structure LabelsFit (world : World) : Prop where
  /-- The counter is in range. -/
  numbers : world.engine.items.InRange
  /-- The keys of all items that got a number fit. -/
  keys : world.engine.ids.stringKeyBase + 2 * world.engine.items.made ≤ Whole.idLimit

instance (world : World) : Decidable world.LabelsFit :=
  decidable_of_iff
    (world.engine.items.InRange ∧
      world.engine.ids.stringKeyBase + 2 * world.engine.items.made ≤ Whole.idLimit)
    ⟨fun ⟨numbers, keys⟩ => ⟨numbers, keys⟩, fun ⟨numbers, keys⟩ => ⟨numbers, keys⟩⟩

/-- Whether the labels fit after a session is told from how many records were offered. -/
theorem labelsFit_iff {ids : IdRanges} {host : Host} {events : List SessionEvent} :
    ((World.start ids host).session events).LabelsFit ↔
      ids.itemBase + (SessionEvent.offers events).countP Offer.makesRecord ≤ Whole.idLimit ∧
        ids.stringKeyBase + 2 * (SessionEvent.offers events).countP Offer.makesRecord ≤
          Whole.idLimit := by
  have tallied := Registry.tallied_offerAll ids.itemBase (SessionEvent.offers events)
  obtain ⟨sameIds, same⟩ := session_items ids host events
  have base := (Registry.base_of_forget_eq same).trans tallied.counts
  have made := (Registry.made_of_forget_eq same).trans tallied.made
  generalize (World.start ids host).session events = world at sameIds base made ⊢
  rw [← base, ← made]
  subst sameIds
  exact ⟨fun fit => ⟨fit.numbers, fit.keys⟩, fun ⟨numbers, keys⟩ => ⟨numbers, keys⟩⟩

/-- When the labels fit, those of fewer events did. -/
theorem LabelsFit.of_append {ids : IdRanges} {host : Host} {earlier more : List SessionEvent}
    (fit : ((World.start ids host).session (earlier ++ more)).LabelsFit) :
    ((World.start ids host).session earlier).LabelsFit := by
  rw [labelsFit_iff, SessionEvent.offers_append, List.countP_append] at fit
  rw [labelsFit_iff]
  omega

/-- When the labels fit, every number that was given to an item has keys of its own. -/
theorem LabelsFit.hasKeys {ids : IdRanges} {host : Host} {events : List SessionEvent}
    (fit : ((World.start ids host).session events).LabelsFit)
    {front back : List (Offer ItemDefinition)} {offer : Offer ItemDefinition}
    (split : SessionEvent.offers events = front ++ offer :: back)
    (makes : offer.makesRecord = true) : ids.HasKeys (offer.number ids.itemBase front) := by
  have before := Offer.countP_lt_of_makesRecord split makes
  rw [labelsFit_iff] at fit
  rw [Offer.number_of_makesRecord makes, countFrom_of_lt (by omega)]
  constructor <;> omega

/-- An item that is registered at some time in a session is beside every item registered later, as
long as the labels fit. -/
theorem beside_of_registered {ids : IdRanges} {host : Host} {earlier more : List SessionEvent}
    {entry other : Entry ItemDefinition}
    (fit : ((World.start ids host).session (earlier ++ more)).LabelsFit)
    (member : entry ∈ ((World.start ids host).session earlier).engine.items.entries)
    (makes : entry.isPatch = false)
    (otherMember :
      other ∈ ((World.start ids host).session (earlier ++ more)).engine.items.entries) :
    entry.Beside ids other := by
  obtain ⟨front, offer, back, split, offerMakes, same⟩ :=
    (Registry.tallied_offerAll ids.itemBase _).exists_offer (session_items ids host earlier).2
      member makes
  have number : entry.id = offer.number ids.itemBase front := congrArg Entry.id same
  have all : SessionEvent.offers (earlier ++ more) =
      front ++ offer :: (back ++ SessionEvent.offers more) := by
    rw [SessionEvent.offers_append, split, List.append_assoc, List.cons_append]
  have found (otherMakes : other.isPatch = false) :=
    (Registry.tallied_offerAll ids.itemBase _).exists_offer
      (session_items ids host (earlier ++ more)).2 otherMember otherMakes
  -- Entries with one number come from offers with one number, and there is only one of these.
  refine ⟨?_, fun otherMakes => ?_, fun otherMakes sameId => ?_⟩
  · rw [number]
    exact fit.hasKeys all offerMakes
  · obtain ⟨front', offer', _, split', offerMakes', same'⟩ := found otherMakes
    have number' : other.id = offer'.number ids.itemBase front' := congrArg Entry.id same'
    rw [number']
    exact fit.hasKeys split' offerMakes'
  · obtain ⟨front', offer', _, split', offerMakes', same'⟩ := found otherMakes
    have number' : other.id = offer'.number ids.itemBase front' := congrArg Entry.id same'
    have numbers : offer'.number ids.itemBase front' = offer.number ids.itemBase front := by
      rw [← number', ← number, sameId]
    obtain ⟨rfl, rfl, _⟩ :=
      Offer.eq_of_number_eq (split'.symm.trans all) offerMakes' offerMakes numbers
    rw [same, same']

/-! ## What events keep -/

/-- An event is a call or keeps the strings. -/
theorem attend_strings (world : World) (event : SessionEvent) :
    (∃ call, event = .event (.call call)) ∨
      (world.attend event).host.tables.strings = world.host.tables.strings := by
  cases event with
  | clearItems | clearRecipes | graph | rename | live => exact .inr rfl
  | event event =>
    cases event with
    | call call => exact .inl ⟨call, rfl⟩
    | removeItem | removeRecipe => exact .inr rfl
    | reload => exact .inr (Tables.reload_strings world.host.tables)

/-- An event that does not drop the record of an item is a call or keeps the record as it is. -/
theorem attend_record (world : World) {event : SessionEvent} {id : Nat}
    (spares : ¬ event.Drops id) :
    (∃ call, event = .event (.call call)) ∨
      (world.attend event).host.tables.items.get? id = world.host.tables.items.get? id := by
  cases event with
  | clearItems => exact absurd trivial spares
  | clearRecipes | graph | rename | live => exact .inr rfl
  | event event =>
    cases event with
    | call call => exact .inl ⟨call, rfl⟩
    | reload => exact absurd trivial spares
    | removeRecipe => exact .inr rfl
    | removeItem other =>
      have apart : other ≠ id := spares
      exact .inr ((Table.get?_remove _ _ _).trans (if_neg apart))

section Attend

variable {ids : IdRanges} {world : World} {entry : Entry ItemDefinition}

/-- A call keeps the records of all numbers labelled, also that of an item it inserts. -/
theorem answer_labels {id : Nat} (sameIds : world.engine.ids = ids)
    (labels : world.host.tables.Labels ids id) (call : Call) :
    (world.answer call).host.tables.Labels ids id := by
  refine answer_keeps (Tables.Labels ids id) ?_ ?_ ?_ labels call
  · intro other member state done ok before
    rw [sameIds] at ok
    exact itemStep_labels ok before
  · intro other state before
    exact retryIcon_labels other before
  · intro registry recipe tables done ok before
    rw [Tables.Labels, recipeStep_items ok]
    exact before

/-- An event that does not drop the record of an item keeps it labelled. -/
theorem attend_labels {id : Nat} (sameIds : world.engine.ids = ids)
    (labels : world.host.tables.Labels ids id) {event : SessionEvent}
    (spares : ¬ event.Drops id) : (world.attend event).host.tables.Labels ids id := by
  rcases world.attend_record spares with ⟨call, rfl⟩ | record
  · exact answer_labels sameIds labels call
  · rw [Tables.Labels, record]
    exact labels

/-- A call introduces the item it inserts, and keeps the others introduced. -/
theorem answer_introduces (sameIds : world.engine.ids = ids)
    (beside : ∀ other ∈ world.engine.items.entries, entry.Beside ids other)
    (introduced : world.host.tables.Introduces ids entry) (call : Call) :
    (world.answer call).host.tables.Introduces ids entry := by
  refine answer_keeps (Tables.Introduces ids entry) ?_ ?_ ?_ introduced call
  · intro other member state done ok before
    rw [sameIds] at ok
    exact itemStep_introduces ok (beside other member) before
  · intro id state before present
    rw [(ItemState.retried_retryIcon id state).present] at present
    exact (before present).of_strings_eq (retryIcon_strings id state)
  · intro registry recipe tables done ok before present
    rw [recipeStep_items ok] at present
    exact (before present).of_strings_eq (recipeStep_strings ok)

/-- Every event keeps the strings of an item. -/
theorem attend_tells (sameIds : world.engine.ids = ids)
    (beside : ∀ other ∈ world.engine.items.entries, entry.Beside ids other)
    (told : world.host.tables.Tells ids entry) (event : SessionEvent) :
    (world.attend event).host.tables.Tells ids entry := by
  rcases world.attend_strings event with ⟨call, rfl⟩ | strings
  · refine answer_keeps (Tables.Tells ids entry) ?_ ?_ ?_ told call
    · intro other member state done ok before
      rw [sameIds] at ok
      exact itemStep_tells ok (beside other member) before
    · intro id state before
      exact before.of_strings_eq (retryIcon_strings id state)
    · intro registry recipe tables done ok before
      exact before.of_strings_eq (recipeStep_strings ok)
  · exact told.of_strings_eq strings

/-- An event that does not drop the record of an item leaves it there. -/
theorem attend_contains {id : Nat} (present : world.host.tables.items.contains id = true)
    {event : SessionEvent} (spares : ¬ event.Drops id) :
    (world.attend event).host.tables.items.contains id = true := by
  rcases world.attend_record spares with ⟨call, rfl⟩ | record
  · exact (world.answer_grows call).items id present
  · rw [Table.contains_eq, record]
    exact present

/-- Where an event drops the record of an item, only a template can be there afterwards, and only
after a reload. -/
theorem template_of_drops {id : Nat} {event : SessionEvent} (drops : event.Drops id)
    (present : (world.attend event).host.tables.items.contains id = true) :
    event = .event .reload ∧ Host.seeded.tables.items.contains id = true := by
  cases event with
  | clearItems => cases present
  | clearRecipes | graph | rename | live => exact drops.elim
  | event event =>
    cases event with
    | call | removeRecipe => exact drops.elim
    | reload =>
      rw [← Tables.contains_of_itemView (Tables.reload_atop world.host.tables).itemView id]
      exact ⟨rfl, present⟩
    | removeItem other =>
      have same : other = id := drops
      change (world.host.tables.items.remove other).contains id = true at present
      rw [Table.contains_eq, Table.get?_remove, if_pos same] at present
      cases present

/-- The record of an item that a call adds is that of a registered item. -/
theorem exists_mem_of_answer {id : Nat} (absent : world.host.tables.items.contains id = false)
    {call : Call} (present : (world.answer call).host.tables.items.contains id = true) :
    ∃ entry ∈ world.engine.items.entries, entry.isPatch = false ∧ entry.id = id := by
  refine answer_keeps (fun tables => tables.items.contains id = true →
    ∃ entry ∈ world.engine.items.entries, entry.isPatch = false ∧ entry.id = id) ?_ ?_ ?_ ?_ call
    present
  · intro entry member state done ok before there
    cases itemTurn_of_ok ok with
    | upToDate | present => exact before there
    | patched _ record written found =>
      rcases Table.eq_or_contains_of_set there with rfl | old
      · exact before (Table.contains_of_get? found)
      · exact before old
    | made makes =>
      rcases Table.eq_or_contains_of_set there with same | old
      · exact ⟨entry, member, makes, same⟩
      · exact before old
  · intro other state before there
    rw [(ItemState.retried_retryIcon other state).present] at there
    exact before there
  · intro registry recipe tables done ok before there
    rw [recipeStep_items ok] at there
    exact before there
  · intro there
    rw [absent] at there
    cases there

end Attend

/-! ## Insertions -/

/-- A call inserts the record of an item that was absent. -/
structure Inserts (world : World) (event : SessionEvent) (entry : Entry ItemDefinition) :
    Prop where
  /-- The event is a call. -/
  called : ∃ call, event = .event (.call call)
  /-- The item is registered. -/
  registered : entry ∈ world.engine.items.entries
  /-- It makes a record. -/
  makes : entry.isPatch = false
  /-- The record was absent. -/
  absent : world.host.tables.items.contains entry.id = false
  /-- The record is present afterwards. -/
  present : (world.attend event).host.tables.items.contains entry.id = true

/-- An item was inserted by an event of a session, and its record was not dropped since. -/
def Keeps (world : World) (events : List SessionEvent) (entry : Entry ItemDefinition) : Prop :=
  ∃ earlier event later, events = earlier ++ event :: later ∧
    (world.session earlier).Inserts event entry ∧ SessionEvent.Spare later entry.id

/-- An event that does not drop a record can only add it by inserting it. -/
theorem inserts_of_contains {world : World} {event : SessionEvent} {id : Nat}
    (spares : ¬ event.Drops id) (absent : world.host.tables.items.contains id = false)
    (present : (world.attend event).host.tables.items.contains id = true) :
    ∃ entry, world.Inserts event entry ∧ entry.id = id := by
  rcases world.attend_record spares with ⟨call, rfl⟩ | record
  · obtain ⟨entry, member, makes, rfl⟩ := exists_mem_of_answer absent present
    exact ⟨entry, ⟨⟨call, rfl⟩, member, makes, absent, present⟩, rfl⟩
  · rw [Table.contains_eq, record, ← Table.contains_eq, absent] at present
    cases present

section Session

variable {ids : IdRanges} {host : Host} {earlier later : List SessionEvent} {event : SessionEvent}
  {entry : Entry ItemDefinition}

/-- Once an item was inserted, its strings are there for ever, as long as the labels fit. -/
theorem Inserts.tells (inserts : ((start ids host).session earlier).Inserts event entry)
    (fit : ((start ids host).session (earlier ++ event :: later)).LabelsFit) :
    ((start ids host).session (earlier ++ event :: later)).host.tables.Tells ids entry := by
  induction later using List.reverseRecOn with
  | nil =>
    obtain ⟨call, rfl⟩ := inserts.called
    rw [session_append_singleton]
    refine answer_introduces (session_items ids host earlier).1 (fun other member => ?_) ?_ call
      inserts.present
    · have stays : other ∈ ((start ids host).session (earlier ++ [])).engine.items.entries := by
        rw [List.append_nil]
        exact member
      have fitted : ((start ids host).session (earlier ++ [])).LabelsFit := by
        rw [List.append_nil]
        exact fit.of_append
      exact beside_of_registered fitted inserts.registered inserts.makes stays
    · intro present
      rw [inserts.absent] at present
      cases present
  | append_singleton later next ih =>
    rw [← List.cons_append, ← List.append_assoc] at fit ⊢
    rw [session_append_singleton]
    exact attend_tells (session_items ids host _).1
      (fun other member =>
        beside_of_registered fit.of_append inserts.registered inserts.makes member)
      (ih fit.of_append) next

/-- Until its record is dropped, an item that was inserted is present and labelled. -/
theorem Inserts.kept (inserts : ((start ids host).session earlier).Inserts event entry)
    (spared : SessionEvent.Spare later entry.id) :
    let tables := ((start ids host).session (earlier ++ event :: later)).host.tables
    tables.items.contains entry.id = true ∧ tables.Labels ids entry.id := by
  induction later using List.reverseRecOn with
  | nil =>
    obtain ⟨call, rfl⟩ := inserts.called
    rw [session_append_singleton]
    refine ⟨inserts.present, answer_labels (session_items ids host earlier).1 ?_ call⟩
    intro record found
    have present := Table.contains_of_get? found
    rw [inserts.absent] at present
    cases present
  | append_singleton later next ih =>
    obtain ⟨present, labels⟩ :=
      ih fun other member => spared other (List.mem_append_left _ member)
    have stays := spared next (List.mem_append_right _ (List.mem_singleton_self _))
    rw [← List.cons_append, ← List.append_assoc, session_append_singleton]
    exact ⟨attend_contains present stays,
      attend_labels (session_items ids host _).1 labels stays⟩

/-- An item record that is there after a session was there before it, is a template, or was
inserted; and it was not dropped since. -/
theorem keeps_of_contains {events : List SessionEvent} {id : Nat}
    (present : ((start ids host).session events).host.tables.items.contains id = true) :
    (host.tables.items.contains id = true ∧ SessionEvent.Spare events id) ∨
      (Host.seeded.tables.items.contains id = true ∧ ∃ earlier later,
        events = earlier ++ .event .reload :: later ∧ SessionEvent.Spare later id) ∨
      ∃ entry, (start ids host).Keeps events entry ∧ entry.id = id := by
  induction events using List.reverseRecOn with
  | nil => exact .inl ⟨present, fun event member => absurd member List.not_mem_nil⟩
  | append_singleton events event ih =>
    rw [session_append_singleton] at present
    by_cases drops : event.Drops id
    · obtain ⟨rfl, template⟩ := template_of_drops drops present
      exact .inr (.inl ⟨template, events, [], rfl,
        fun next member => absurd member List.not_mem_nil⟩)
    cases before : ((start ids host).session events).host.tables.items.contains id with
    | false =>
      obtain ⟨entry, inserts, rfl⟩ := inserts_of_contains drops before present
      exact .inr (.inr ⟨entry, ⟨events, event, [], rfl, inserts,
        fun next member => absurd member List.not_mem_nil⟩, rfl⟩)
    | true =>
      -- What was there before stays, for the reason that it was there.
      rcases ih before with ⟨held, spared⟩ | ⟨template, earlier, later, rfl, spared⟩ |
        ⟨entry, ⟨earlier, inserted, later, rfl, inserts, spared⟩, rfl⟩
      · exact .inl ⟨held, spared.concat drops⟩
      · exact .inr (.inl ⟨template, earlier, later ++ [event], List.append_assoc _ _ _,
          spared.concat drops⟩)
      · exact .inr (.inr ⟨entry, ⟨earlier, inserted, later ++ [event], List.append_assoc _ _ _,
          inserts, spared.concat drops⟩, rfl⟩)

end Session

end World

/-- Whatever happens in a session in which numbers and string keys fit 32 bits, every item that was
ever inserted has its name and its description, as they were registered under its number, under the
two string keys of the number. As long as its record is not dropped, it is there with its own number
and these two keys. All other item records were there before the session or are templates. -/
theorem inserted_items_keep_labels (ids : IdRanges) (host : Host) (events : List SessionEvent) :
    let world := World.start ids host
    let tables := (world.session events).host.tables
    ((world.session events).LabelsFit →
      ∀ earlier event later entry, events = earlier ++ event :: later →
        (world.session earlier).Inserts event entry →
        tables.strings.get? (ids.titleKey entry.id) =
          some (entry.resolve entry.definition.name) ∧
        tables.strings.get? (ids.titleKey entry.id + 1) =
          some (entry.resolve entry.definition.description)) ∧
    (∀ entry, world.Keeps events entry → ids.titleKey entry.id + 1 < Whole.idLimit →
      ∃ record, tables.items.get? entry.id = some record ∧ record.id = entry.id ∧
        record.titleKey = ids.titleKey entry.id ∧
        record.descriptionKey = ids.titleKey entry.id + 1) ∧
    ∀ id, tables.items.contains id = true →
      (host.tables.items.contains id = true ∧ SessionEvent.Spare events id) ∨
      (Host.seeded.tables.items.contains id = true ∧ ∃ earlier later,
        events = earlier ++ .event .reload :: later ∧ SessionEvent.Spare later id) ∨
      ∃ entry, world.Keeps events entry ∧ entry.id = id := by
  intro world tables
  refine ⟨?_, ?_, fun id => World.keeps_of_contains⟩
  · rintro fit earlier event later entry rfl inserts
    exact ⟨(inserts.tells fit).title, (inserts.tells fit).description⟩
  · rintro entry ⟨earlier, event, later, rfl, inserts, spared⟩ small
    obtain ⟨present, labels⟩ := inserts.kept spared
    rw [Table.contains_eq, Option.isSome_iff_exists] at present
    obtain ⟨record, found⟩ := present
    have labelled := labels record found
    refine ⟨record, found, labelled.id, ?_, ?_⟩
    · rw [labelled.titleKey]
      exact FieldValue.narrow_of_lt (by omega)
    · rw [labelled.descriptionKey]
      exact FieldValue.narrow_of_lt small

/-- A package with an item and another that is made from it. -/
def cellar : Package :=
  { info := .ofManifest { id := "cellar" } "" ⟨Dict.ofList [("jam", "Plum jam")]⟩
    items :=
      [{ id := "jam", name := "@jam" }, { id := "syrup", name := "Syrup", baseItem := 60000 }] }

/-- The items of that package are inserted, the host takes the first one out, and it is inserted
again. -/
def cellarEvents : List SessionEvent :=
  [.event (.call (.register cellar)), .event (.call .inject), .event (.removeItem 60000),
    .event (.call .inject)]

/-- The first item was given its name when it was inserted first, and the second, which was never
taken out, is not labelled as the one that it was made from. -/
theorem cellar_keeps_labels :
    let tables := ((World.start {} Host.seeded).session cellarEvents).host.tables
    ((World.start {} Host.seeded).session cellarEvents).LabelsFit ∧
      tables.strings.get? 990000 = some "Plum jam" ∧
      ∃ record, tables.items.get? 60001 = some record ∧ record.id = 60001 ∧
        record.titleKey = 990002 ∧ record.descriptionKey = 990003 := by
  intro tables
  let earlier := cellarEvents.take 1
  let registered := ((World.start {} Host.seeded).session earlier).engine.items.entries
  have inserts : ∀ entry ∈ registered,
      ((World.start {} Host.seeded).session earlier).Inserts (.event (.call .inject)) entry := by
    intro entry member
    have makes : ∀ entry ∈ registered, entry.isPatch = false := by decide
    have absent : ∀ entry ∈ registered, ((World.start {} Host.seeded).session
        earlier).host.tables.items.contains entry.id = false := by decide
    have present : ∀ entry ∈ registered, (((World.start {} Host.seeded).session
        earlier).attend (.event (.call .inject))).host.tables.items.contains entry.id = true := by
      decide
    exact ⟨⟨.inject, rfl⟩, member, makes entry member, absent entry member, present entry member⟩
  let jam := registered.get ⟨0, by decide⟩
  let syrup := registered.get ⟨1, by decide⟩
  obtain ⟨strings, records, _⟩ := inserted_items_keep_labels {} Host.seeded cellarEvents
  have fit : ((World.start {} Host.seeded).session cellarEvents).LabelsFit := by decide
  have title := (strings fit earlier _ _ jam rfl (inserts jam (List.get_mem _ _))).1
  have key : IdRanges.titleKey {} jam.id = 990000 := by decide
  have name : jam.resolve jam.definition.name = "Plum jam" := by decide
  rw [key, name] at title
  have number : syrup.id = 60001 := by decide
  have spared : SessionEvent.Spare (cellarEvents.drop 2) syrup.id := by
    rw [number]
    intro event member
    change event ∈ [.event (.removeItem 60000), .event (.call .inject)] at member
    rw [List.mem_pair] at member
    rcases member with rfl | rfl
    · exact (by decide : (60000 : Nat) ≠ 60001)
    · exact id
  have kept := records syrup ⟨earlier, _, _, rfl, inserts syrup (List.get_mem _ _), spared⟩
    (by decide)
  rw [number] at kept
  exact ⟨fit, title, kept⟩

end Modpack
