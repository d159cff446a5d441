import Modpack.Proofs.History
import Modpack.Proofs.Templates

/-!
# The host's own records survive

Records with numbers below the bases belong to the host. Whatever is asked of the engine, they
stay in their tables with the same nested lists and the same content in them; recipes do not
change at all, and items change only in the fields a patch writes, and only when a registered
definition names them as its target. Wherever the counters have come to, a record is only made
under a number that the host does not use. The invariant (`Safe`) holds together four facts: the
engine has the content registered so far, icons are not awaited for numbers of the host's own
records, every handle is of a list that was made, and nothing of the host's has been touched yet.
-/
namespace Modpack

/-- An item definition of the packages, with an id, names the record as its patch target. -/
def PatchedBy (packages : List Package) (id : Nat) : Prop :=
  ∃ package ∈ packages, ∃ item ∈ package.items, item.id ≠ "" ∧ item.patchTarget? = some id

/-- What may happen to an item record of the host: its patchable fields change if it is patched. -/
structure ItemRecord.Keeps (patched : Prop) (before after : ItemRecord) : Prop where
  /-- The shape is as it was. -/
  variant : after.variant = before.variant
  /-- The handles are as they were. -/
  handles : ∀ list, after.handle list = before.handle list
  /-- A field that changed is patchable, on a record that is patched. -/
  fields : ∀ field, after.get? field ≠ before.get? field →
    field ∈ ItemField.patchable ∧ patched

namespace ItemRecord

variable {patched more : Prop}

/-- A record keeps itself. -/
theorem Keeps.refl (record : ItemRecord) : record.Keeps patched record :=
  ⟨rfl, fun _ => rfl, fun _ different => absurd rfl different⟩

/-- Keeping twice is keeping. -/
theorem Keeps.trans {first middle last : ItemRecord} (left : first.Keeps patched middle)
    (right : middle.Keeps patched last) : first.Keeps patched last := by
  refine ⟨right.variant.trans left.variant,
    fun list => (right.handles list).trans (left.handles list), ?_⟩
  intro field different
  by_cases same : middle.get? field = first.get? field
  · rw [← same] at different
    exact right.fields field different
  · exact left.fields field same

/-- A record that may be patched in one case may be in a wider one. -/
theorem Keeps.mono {before after : ItemRecord} (kept : before.Keeps patched after)
    (wider : patched → more) : before.Keeps more after :=
  ⟨kept.variant, kept.handles, fun field different =>
    ⟨(kept.fields field different).1, wider (kept.fields field different).2⟩⟩

/-- Writing patchable fields of a patched record keeps it. -/
theorem keeps_of_setAll {before after : ItemRecord} {writes : ItemWrites}
    (accepted : before.setAll writes = .ok after)
    (patchable : ∀ write ∈ writes, write.1 ∈ ItemField.patchable) (isPatched : patched) :
    before.Keeps patched after := by
  obtain ⟨variant, handles, fields⟩ := setAll_frame accepted
  refine ⟨variant, handles, ?_⟩
  intro field different
  refine ⟨?_, isPatched⟩
  by_cases written : field ∈ writes.map Prod.fst
  · obtain ⟨write, member, rfl⟩ := List.mem_map.1 written
    exact patchable write member
  · exact absurd (fields field written) different

end ItemRecord

/-- The host's own records are in both tables, with the same lists, and kept as they may be. -/
structure Tables.Spares (ids : IdRanges) (patched : Nat → Prop) (before after : Tables) :
    Prop where
  /-- Items below the first number of an item. -/
  items : ∀ id record, id < ids.itemBase → before.items.get? id = some record →
    ∃ kept, after.items.get? id = some kept ∧ record.Keeps (patched id) kept ∧
      ∀ list, after.lists.read (kept.handle list) = before.lists.read (record.handle list)
  /-- Recipes below the first number of a recipe. -/
  recipes : ∀ id record, id < ids.recipeBase → before.recipes.get? id = some record →
    after.recipes.get? id = some record ∧
      ∀ list, after.lists.read (record.handle list) = before.lists.read (record.handle list)

namespace Tables

variable {ids : IdRanges} {patched more : Nat → Prop}

/-- Tables spare themselves. -/
theorem Spares.refl (tables : Tables) : tables.Spares ids patched tables :=
  ⟨fun _ record _ found => ⟨record, found, .refl record, fun _ => rfl⟩,
    fun _ _ _ found => ⟨found, fun _ => rfl⟩⟩

/-- Sparing twice is sparing. -/
theorem Spares.trans {first middle last : Tables} (left : first.Spares ids patched middle)
    (right : middle.Spares ids patched last) : first.Spares ids patched last := by
  constructor
  · intro id record below found
    obtain ⟨kept, keptFound, keeps, contents⟩ := left.items id record below found
    obtain ⟨kept', keptFound', keeps', contents'⟩ := right.items id kept below keptFound
    exact ⟨kept', keptFound', keeps.trans keeps',
      fun list => (contents' list).trans (contents list)⟩
  · intro id record below found
    obtain ⟨keptFound, contents⟩ := left.recipes id record below found
    obtain ⟨keptFound', contents'⟩ := right.recipes id record below keptFound
    exact ⟨keptFound', fun list => (contents' list).trans (contents list)⟩

/-- Tables that spare what is not patched do so when more is patched. -/
theorem Spares.mono {before after : Tables} (spares : before.Spares ids patched after)
    (wider : ∀ id, patched id → more id) : before.Spares ids more after := by
  refine ⟨?_, spares.recipes⟩
  intro id record below found
  obtain ⟨kept, keptFound, keeps, contents⟩ := spares.items id record below found
  exact ⟨kept, keptFound, keeps.mono (wider id), contents⟩

/-- Putting an item spares the host's records, if it keeps the one of these that it replaces. -/
theorem Spares.putItem {before tables : Tables} (spares : before.Spares ids patched tables)
    (grounded : tables.Grounded) {lists : ListStore} (extended : tables.lists.ExtendedBy lists)
    (strings : StringTable) {id : Nat} {record : ItemRecord}
    (keeps : ∀ own held, id < ids.itemBase → before.items.get? id = some own →
      tables.items.get? id = some held → held.Keeps (patched id) record) :
    before.Spares ids patched (tables.putItem lists strings id record) := by
  constructor
  · intro other own below found
    obtain ⟨held, heldFound, kept, contents⟩ := spares.items other own below found
    have extends' (list : ItemList) : lists.read (held.handle list) =
        tables.lists.read (held.handle list) :=
      (extended _ (grounded.items other held heldFound list)).2
    have after : (tables.putItem lists strings id record).items.get? other =
        if id = other then some record else tables.items.get? other :=
      Table.get?_set tables.items id other record
    by_cases same : id = other
    · subst same
      rw [if_pos rfl] at after
      have keptNow := keeps own held below found heldFound
      refine ⟨record, after, kept.trans keptNow, fun list => ?_⟩
      rw [keptNow.handles]
      exact (extends' list).trans (contents list)
    · rw [if_neg same] at after
      exact ⟨held, after.trans heldFound, kept, fun list => (extends' list).trans (contents list)⟩
  · intro other own below found
    obtain ⟨heldFound, contents⟩ := spares.recipes other own below found
    exact ⟨heldFound, fun list =>
      ((extended _ (grounded.recipes other own heldFound list)).2).trans (contents list)⟩

/-- Putting a recipe under a number that is not used spares the host's records. -/
theorem Spares.putRecipe {before tables : Tables} (spares : before.Spares ids patched tables)
    (grounded : tables.Grounded) {lists : ListStore} (extended : tables.lists.ExtendedBy lists)
    {id : Nat} (absent : tables.recipes.get? id = none) (record : RecipeRecord) :
    before.Spares ids patched (tables.putRecipe lists id record) := by
  constructor
  · intro other own below found
    obtain ⟨held, heldFound, kept, contents⟩ := spares.items other own below found
    exact ⟨held, heldFound, kept, fun list =>
      ((extended _ (grounded.items other held heldFound list)).2).trans (contents list)⟩
  · intro other own below found
    obtain ⟨heldFound, contents⟩ := spares.recipes other own below found
    refine ⟨?_, fun list =>
      ((extended _ (grounded.recipes other own heldFound list)).2).trans (contents list)⟩
    refine (Table.get?_set tables.recipes id other record).trans ?_
    rw [if_neg]
    · exact heldFound
    · rintro rfl
      rw [absent] at heldFound
      cases heldFound

end Tables

/-! ## The invariant -/

/-- Tables and marks that are still safe for the host. -/
structure ItemState.Safe (ids : IdRanges) (patched : Nat → Prop) (before : Tables)
    (state : ItemState) : Prop where
  /-- Icons are not awaited for numbers of the host's own records. -/
  pending : ∀ id reference, state.marks.pendingIcons.get? id = some reference →
    id < ids.itemBase → before.items.get? id = none
  /-- Every handle is of a list that was made. -/
  grounded : state.tables.Grounded
  /-- The host's own records were spared. -/
  spares : before.Spares ids patched state.tables

section Safe

variable {ids : IdRanges} {patched more : Nat → Prop} {before : Tables} {state : ItemState}

/-- A safe state is so when more is patched. -/
theorem ItemState.Safe.mono (safe : state.Safe ids patched before)
    (wider : ∀ id, patched id → more id) : state.Safe ids more before :=
  ⟨safe.pending, safe.grounded, safe.spares.mono wider⟩

/-- A step of the item pass is safe, if it patches only what may be patched. -/
theorem itemStep_safe {entry : Entry ItemDefinition} {done : Step ItemState}
    (ok : itemStep ids entry state = .ok done)
    (target : entry.isPatch = true → patched entry.definition.targetItemId)
    (safe : state.Safe ids patched before) : done.state.Safe ids patched before := by
  have grounded := itemStep_grounded ok safe.grounded
  cases itemTurn_of_ok ok with
  | upToDate | present => exact safe
  | patched patches record written found outdated accepted =>
    refine ⟨safe.pending, grounded, safe.spares.putItem safe.grounded (.refl _) _ ?_⟩
    intro _ held _ _ found'
    obtain rfl : record = held := Option.some.inj (found.symm.trans found')
    refine ItemRecord.keeps_of_setAll accepted (fun write member => ?_) (target patches)
    exact entry.definition.patchValues_patchable state.tables.items write
      (List.mem_filter.1 member).1
  | made makes absent base record found accepted =>
    have unused : state.tables.items.get? entry.id = none := Table.get?_eq_none_iff.2 absent
    refine ⟨?_, grounded, ?_⟩
    · intro id reference waits below
      rw [ItemPlan.carryOut_eq] at waits
      rcases ItemPlan.awaited_of_marksAfter waits with rfl | earlier
      · -- Were the number the host's own, its record would still be there.
        rw [Option.eq_none_iff_forall_ne_some]
        intro own ownFound
        obtain ⟨held, heldFound, _⟩ := safe.spares.items _ own below ownFound
        exact absurd (unused.symm.trans heldFound) (by simp)
      · exact safe.pending id reference earlier below
    · rw [ItemPlan.carryOut_eq]
      refine safe.spares.putItem safe.grounded
        (ItemPlan.extendedBy_finished (ItemPlan.pushesApart_planAround ids _ entry _ record)) _ ?_
      intro _ held _ _ heldFound
      exact absurd (unused.symm.trans heldFound) (by simp)

/-- Trying to copy an icon is safe. -/
theorem retryIcon_safe (id : Nat) (safe : state.Safe ids patched before) :
    (retryIcon id state).2.Safe ids patched before := by
  have turn := retryIcon_turn id state
  generalize retryIcon id state = tried at turn ⊢
  cases turn with
  | nothing => exact safe
  | copied reference record written icon pending found shown accepted =>
    obtain ⟨_, handles, _⟩ := ItemRecord.set_frame accepted
    refine ⟨?_, ?_, safe.spares.putItem safe.grounded (.refl _) _ ?_⟩
    · intro other reference' waits
      rw [IdMap.get?_erase] at waits
      split at waits
      · cases waits
      · exact safe.pending other reference' waits
    · refine safe.grounded.putItem (.refl _) _ _ fun list => ?_
      rw [handles]
      exact safe.grounded.items id record found list
    · intro own _ below ownFound _
      have unused := safe.pending id reference pending below
      exact absurd (unused.symm.trans ownFound) (by simp)

/-- A step of the recipe pass is safe. -/
theorem recipeStep_safe {items : Registry ItemDefinition} {entry : Entry RecipeDefinition}
    {tables : Tables} {done : Step Tables} (ok : recipeStep ids items entry tables = .ok done)
    (safe : tables.Grounded ∧ before.Spares ids patched tables) :
    done.state.Grounded ∧ before.Spares ids patched done.state := by
  refine ⟨recipeStep_grounded ok safe.1, ?_⟩
  cases recipeTurn_of_ok ok with
  | present => exact safe.2
  | made absent plan planned =>
    have unused : tables.recipes.get? plan.id = none := by
      rw [planRecipe_id planned]
      exact Table.get?_eq_none_iff.2 absent
    rw [RecipePlan.carryOut_eq]
    exact safe.2.putRecipe safe.1 (plan.extendedBy_finished tables.lists) unused _

end Safe

/-- A world whose engine has the content of packages and which is still safe for the host. -/
structure World.Safe (ids : IdRanges) (packages : List Package) (before : Tables)
    (world : World) : Prop where
  /-- The engine has the content of the packages. -/
  content : world.engine.SameContent ((Engine.empty ids).registerAll packages)
  /-- Its tables and marks are safe. -/
  state : world.itemState.Safe ids (PatchedBy packages) before

namespace World

variable {ids : IdRanges} {packages : List Package} {before : Tables} {world : World}

/-- The engine of a safe world numbers as it should and patches what its packages name. -/
theorem Safe.sound (safe : world.Safe ids packages before) :
    world.engine.Sound fun item => ∀ target, item.patchTarget? = some target →
      PatchedBy packages target := by
  refine ((Engine.sound_empty ids _).registerAll ?_).of_sameContent safe.content
  intro package inPackages item inItems named target patches
  exact ⟨package, inPackages, item, inItems, named, patches⟩

/-- The engine of a safe world begins its numbers where it was told to. -/
theorem Safe.ids_eq (safe : world.Safe ids packages before) : world.engine.ids = ids :=
  safe.content.ids.trans (Engine.registerAll_frame (.empty ids) packages).1

/-- The item pass is safe. -/
theorem Safe.itemPass (safe : world.Safe ids packages before) :
    (world.engine.itemPass world.host.tables).state.Safe ids (PatchedBy packages) before := by
  have sound := safe.sound
  rw [Engine.itemPass, safe.ids_eq]
  refine runPass_keeps (ItemState.Safe ids (PatchedBy packages) before) ?_ safe.state
  intro entry member state done ok
  refine itemStep_safe ok fun patches => ?_
  -- An entry that patches has its target from its definition.
  obtain ⟨target, named⟩ := Option.isSome_iff_exists.1 patches
  have patched := sound.items.known entry member target named
  change entry.definition.patchTarget? = some target at named
  rw [ItemDefinition.patchTarget?] at named
  split at named
  · cases named
    exact patched
  · cases named

/-- The recipe pass that follows the item pass is safe. -/
theorem Safe.recipePass (safe : world.Safe ids packages before) :
    let started := world.engine.afterItems world.host.tables
    let between := (world.engine.itemPass world.host.tables).state.tables
    (started.recipePass between).state.Grounded ∧
      before.Spares ids (PatchedBy packages) (started.recipePass between).state := by
  intro started between
  have sameIds : started.ids = ids := safe.ids_eq
  refine runPass_keeps
    (fun tables : Tables => tables.Grounded ∧ before.Spares ids (PatchedBy packages) tables) ?_
    ⟨safe.itemPass.grounded, safe.itemPass.spares⟩
  intro entry member tables done ok
  rw [sameIds] at ok
  exact recipeStep_safe ok

/-- An injection is safe. -/
theorem Safe.inject (safe : world.Safe ids packages before) :
    world.inject.Safe ids packages before := by
  have content := (Engine.sameContent_injectContent world.engine world.host.tables).trans
    safe.content
  refine ⟨content, ?_⟩
  rw [World.inject]
  have turn := Engine.injectContent_turn world.engine world.host.tables
  generalize world.engine.injectContent world.host.tables = injection at turn ⊢
  cases turn with
  | nothing => exact safe.state
  | items => exact safe.itemPass
  | full => exact ⟨safe.itemPass.pending, safe.recipePass.1, safe.recipePass.2⟩

/-- A call is safe, and adds the packages it registers. -/
theorem Safe.answer (safe : world.Safe ids packages before) (call : Call) :
    (world.answer call).Safe ids (packages ++ call.registered) before := by
  have wider : ∀ id, PatchedBy packages id → PatchedBy (packages ++ call.registered) id := by
    rintro id ⟨package, inPackages, patches⟩
    exact ⟨package, List.mem_append_left _ inPackages, patches⟩
  have turn := answer_turn world call
  generalize world.answer call = after at turn ⊢
  cases turn with
  | registered =>
    refine ⟨?_, ?_⟩
    · rw [Engine.registerAll_append]
      exact safe.content.registerAll call.registered
    · rw [itemState, (Engine.registerAll_frame world.engine call.registered).2.1]
      exact safe.state.mono wider
  | injected _ nothing =>
    rw [nothing, List.append_nil]
    exact safe.inject
  | displayed id =>
    rw [show (Call.display id).registered = [] from rfl, List.append_nil]
    refine ⟨?_, retryIcon_safe id safe.state⟩
    exact ⟨safe.content.ids, safe.content.items, safe.content.recipes⟩
  | resolved =>
    rw [show Call.resolveIcons.registered = [] from rfl, List.append_nil]
    refine ⟨?_, ?_⟩
    · exact ⟨safe.content.ids, safe.content.items, safe.content.recipes⟩
    · exact retryEach_keeps (ItemState.Safe ids (PatchedBy packages) before)
        (fun id _ kept => retryIcon_safe id kept) _ safe.state
  | aside _ nothing after quests engine tables =>
    rw [nothing, List.append_nil]
    refine ⟨?_, ?_⟩
    · rw [engine]
      exact ⟨safe.content.ids, safe.content.items, safe.content.recipes⟩
    · rw [itemState, engine, tables]
      exact safe.state

/-- Calls are safe, and add the packages they register. -/
theorem Safe.answerAll (safe : world.Safe ids packages before) (calls : List Call) :
    (world.answerAll calls).Safe ids (packages ++ calls.flatMap Call.registered) before := by
  induction calls generalizing world packages with
  | nil =>
    rw [List.flatMap_nil, List.append_nil]
    exact safe
  | cons call rest ih =>
    rw [List.flatMap_cons, ← List.append_assoc]
    exact ih (safe.answer call)

/-- The world before anything happened is safe. -/
theorem safe_start (ids : IdRanges) {host : Host} (grounded : host.tables.Grounded) :
    (start ids host).Safe ids [] host.tables := by
  refine ⟨.refl _, ?_, grounded, .refl host.tables⟩
  intro id reference waits
  cases waits

end World

/-- Whatever a host asks of a fresh engine, in whatever order, its own records survive: they stay
in their tables, their nested lists keep their content, and their fields change only where a
registered item definition patches them. -/
theorem host_records_survive (ids : IdRanges) (host : Host) (grounded : host.tables.Grounded)
    (calls : List Call) :
    host.tables.Spares ids (PatchedBy (calls.flatMap Call.registered))
      ((World.start ids host).answerAll calls).host.tables :=
  ((World.safe_start ids grounded).answerAll calls).state.spares

/-- A package that patches a template and makes an item whose icon has to be awaited. -/
def pantry : Package :=
  { info := .inMemory "pantry"
    items := [{ id := "ration", isModify := true, targetItemId := 1, price := 3 },
      { id := "jam", referenceItemId := 5 }] }

/-- A session with the pantry, in which every kind of call is made. -/
def pantryCalls : List Call :=
  [.register pantry, .inject, .display 60000, .notify .sessionLoaded, .resolveIcons,
    .unlockRecipes]

/-- A seeded host keeps its templates through a session with the pantry. -/
theorem templates_survive_pantry :
    Host.seeded.tables.Grounded ∧
      Host.seeded.tables.Spares {} (PatchedBy (pantryCalls.flatMap Call.registered))
        ((World.start {} Host.seeded).answerAll pantryCalls).host.tables :=
  ⟨Tables.seeded_grounded,
    host_records_survive {} Host.seeded Tables.seeded_grounded pantryCalls⟩

end Modpack
