import Modpack.Proofs.CheckCounts
import Modpack.Proofs.NewItemRecords
import Modpack.Proofs.Numbering
import Modpack.Proofs.RecipeSteps
import Modpack.Proofs.Turns

/-!
# What a pass reports and what it does

The report of a pass is its account of what it did to the tables. Each entry is told of once. The
records that a pass put where there were none are as many as it reports injected, and the writes
that the table received are as many as it reports injected or patched. What is so for the report of
one turn and the effect of that turn is so for a pass, because both add up: a report over the
entries, and a count of writes over the states between them.
-/
namespace Modpack

/-! ## Counts that add up -/

/-- A count told from a report that adds up over reports. -/
structure Report.Additive (count : Report → Nat) : Prop where
  /-- An empty report counts nothing. -/
  empty : count {} = 0
  /-- Two reports as one count what both count. -/
  merge : ∀ left right : Report, count (left.merge right) = count left + count right

section Adding

variable {σ δ : Type} [Definition δ] {step : Entry δ → σ → Except (Halt σ) (Step σ)}

/-- A pass reports what its first turn does and what the pass over the rest does. -/
theorem runPass_cons_report (entry : Entry δ) (rest : List (Entry δ)) (state : σ) :
    (runPass step (entry :: rest) state).report =
      (Turn.mk entry state (step entry state)).report.merge
        (runPass step rest (Turn.mk entry state (step entry state)).after).report := by
  rw [runPass_eq_ofTurns, runPass_eq_ofTurns]
  rfl

/-- What every turn adds to a measure of the state, by its report, a pass adds by its report. -/
theorem measure_runPass {count : Report → Nat} (additive : Report.Additive count)
    (measure : σ → Nat)
    (each : ∀ entry state, measure (Turn.mk entry state (step entry state)).after =
      measure state + count (Turn.mk entry state (step entry state)).report)
    (entries : List (Entry δ)) (state : σ) :
    measure (runPass step entries state).state =
      measure state + count (runPass step entries state).report := by
  induction entries generalizing state with
  | nil =>
    change measure state = measure state + count {}
    rw [additive.empty, Nat.add_zero]
  | cons entry rest ih =>
    rw [runPass_cons_state, runPass_cons_report, additive.merge, ih, each, Nat.add_assoc]

/-- A count that is one for some turns and none for the others counts these turns of a pass. -/
theorem count_runPass {count : Report → Nat} (additive : Report.Additive count)
    (told : Turn σ δ → Bool)
    (each : ∀ entry state, count (Turn.mk entry state (step entry state)).report =
      (told (Turn.mk entry state (step entry state))).toNat)
    (entries : List (Entry δ)) (state : σ) :
    count (runPass step entries state).report = (turns step entries state).countP told := by
  induction entries generalizing state with
  | nil => exact additive.empty
  | cons entry rest ih =>
    rw [runPass_cons_report, additive.merge, ih, each, turns, List.countP_cons]
    cases told (Turn.mk entry state (step entry state)) <;> simp [Nat.add_comm]

/-- A count that is none for every turn is none for a pass. -/
theorem count_runPass_of_none {count : Report → Nat} (additive : Report.Additive count)
    (none : ∀ entry state, count (Turn.mk entry state (step entry state)).report = 0)
    (entries : List (Entry δ)) (state : σ) : count (runPass step entries state).report = 0 := by
  have counted := count_runPass additive (fun _ => false) none entries state
  rw [counted, List.countP_false]
  rfl

end Adding

/-! ## What a step does to a table -/

/-- What becomes of a table in a step for a number, told by the outcome. -/
inductive Table.Becomes {α : Type} (before : Table α) (id : Nat) : Outcome → Table α → Prop
  /-- Nothing is written. -/
  | skipped : Becomes before id .skipped before
  /-- A record is written under a number that is there. -/
  | patched (target : Nat) (record : α) (present : before.contains target = true) :
      Becomes before id .patched (before.set target record)
  /-- A record is written under the number, which was free. -/
  | injected (record : α) (absent : before.contains id = false) :
      Becomes before id .injected (before.set id record)
  /-- A record without its icon is written under the number, which was free. -/
  | deferred (record : α) (absent : before.contains id = false) :
      Becomes before id .deferred (before.set id record)

/-- What a step of the item pass does to the items. -/
theorem itemStep_becomes {ids : IdRanges} {entry : Entry ItemDefinition} {state : ItemState}
    {done : Step ItemState} (ok : itemStep ids entry state = .ok done) :
    state.tables.items.Becomes entry.id done.outcome done.state.tables.items := by
  cases itemTurn_of_ok ok with
  | upToDate | present => exact .skipped
  | patched _ record written found => exact .patched _ written (Table.contains_of_get? found)
  | made _ absent base record =>
    simp only [ItemPlan.outcome]
    split
    · exact .deferred _ absent
    · exact .injected _ absent

/-- What a step of the recipe pass does to the recipes. -/
theorem recipeStep_becomes {ids : IdRanges} {items : Registry ItemDefinition}
    {entry : Entry RecipeDefinition} {tables : Tables} {done : Step Tables}
    (ok : recipeStep ids items entry tables = .ok done) :
    tables.recipes.Becomes entry.id done.outcome done.state.recipes := by
  cases recipeTurn_of_ok ok with
  | present => exact .skipped
  | made absent plan planned =>
    have id : plan.id = entry.id := planRecipe_id planned
    have put : (plan.carryOut tables).recipes = tables.recipes.set entry.id _ :=
      congrArg (tables.recipes.set · _) id
    rw [put]
    exact .injected _ absent

/-! ## What a pass does to a table -/

/-- Whether a turn puts the record of its entry where there was none. -/
def Turn.inserts {σ δ α : Type} (table : σ → Table α) (turn : Turn σ δ) : Bool :=
  !(table turn.state).contains turn.entry.id && (table turn.after).contains turn.entry.id

/-- The turns of a pass that put the record of their entry where there was none. -/
def inserting {σ δ α : Type} (step : Entry δ → σ → Except (Halt σ) (Step σ))
    (table : σ → Table α) (entries : List (Entry δ)) (state : σ) : List (Turn σ δ) :=
  (turns step entries state).filter (Turn.inserts table)

section Table

variable {σ δ α : Type} [Definition δ] {step : Entry δ → σ → Except (Halt σ) (Step σ)}
  [Atomic step] (table : σ → Table α)
  (becomes : ∀ entry state done, step entry state = .ok done →
    (table state).Becomes entry.id done.outcome (table done.state))
include becomes

omit [Definition δ] in
/-- A turn reports a record injected when it puts one where there was none. -/
theorem injected_of_turn (entry : Entry δ) (state : σ) :
    (Turn.mk entry state (step entry state)).report.injected =
      ((Turn.mk entry state (step entry state)).inserts table).toNat := by
  cases result : step entry state with
  | error halt => simp [Turn.report, Turn.inserts, Turn.after, Atomic.untouched result]
  | ok done =>
    have told := becomes _ _ _ result
    simp only [Turn.report, Turn.inserts, Turn.after]
    generalize done.outcome = outcome at told ⊢
    generalize table done.state = after at told ⊢
    cases told with
    | skipped => simp [Report.ofOutcome]
    | patched target record present =>
      simp [Report.ofOutcome, Table.contains_set_of_present present]
    | injected record absent | deferred record absent =>
      simp [Report.ofOutcome, Table.contains_set, absent]

omit [Definition δ] in
/-- A turn writes as often as it reports a record injected or patched. -/
theorem writes_of_turn (entry : Entry δ) (state : σ) :
    (table (Turn.mk entry state (step entry state)).after).writes =
      (table state).writes + ((Turn.mk entry state (step entry state)).report.injected +
        (Turn.mk entry state (step entry state)).report.patched) := by
  cases result : step entry state with
  | error halt => simp [Turn.report, Turn.after, Atomic.untouched result]
  | ok done =>
    have told := becomes _ _ _ result
    simp only [Turn.report, Turn.after]
    generalize done.outcome = outcome at told ⊢
    generalize table done.state = after at told ⊢
    cases told <;> rfl

omit [Definition δ] in
/-- A turn adds a number when it puts a record where there was none, and loses none. -/
theorem ids_of_turn (entry : Entry δ) (state : σ) :
    (table (Turn.mk entry state (step entry state)).after).ids.Perm ((table state).ids ++
      bif (Turn.mk entry state (step entry state)).inserts table then [entry.id] else []) := by
  cases result : step entry state with
  | error halt => simp [Turn.inserts, Turn.after, Atomic.untouched result]
  | ok done =>
    have told := becomes _ _ _ result
    simp only [Turn.inserts, Turn.after]
    generalize done.outcome = outcome at told ⊢
    generalize table done.state = after at told ⊢
    cases told with
    | skipped => simp
    | patched target record present =>
      rw [Table.ids_set present]
      simp [Table.contains_set_of_present present]
    | injected record absent | deferred record absent =>
      have added := Table.perm_ids_set absent record
      simpa [Table.contains_set, absent] using added

/-- A pass adds the numbers of the turns that put a record where there was none, and loses none. -/
theorem ids_runPass (entries : List (Entry δ)) (state : σ) :
    (table (runPass step entries state).state).ids.Perm ((table state).ids ++
      (inserting step table entries state).map fun turn => turn.entry.id) := by
  induction entries generalizing state with
  | nil => simp [runPass, inserting, turns]
  | cons entry rest ih =>
    have first := ids_of_turn table becomes entry state
    have later := ih (Turn.mk entry state (step entry state)).after
    rw [runPass_cons_state, inserting, turns]
    refine later.trans ((first.append_right _).trans ?_)
    rw [List.append_assoc]
    refine List.Perm.append_left _ ?_
    cases told : (Turn.mk entry state (step entry state)).inserts table <;> simp [inserting, told]

end Table

/-- The numbers of a table are all different. -/
theorem Table.nodup_ids {α : Type} (table : Table α) : table.ids.Nodup := by
  have ascending := List.pairwise_map.2 table.records.ascending
  exact ascending.imp Nat.ne_of_lt

/-- What a pass reports of a table is what it did to it. -/
structure Accounts {σ δ α : Type} [Definition δ] (step : Entry δ → σ → Except (Halt σ) (Step σ))
    (table : σ → Table α) (entries : List (Entry δ)) (before : σ) (pass : Pass σ δ) : Prop where
  /-- Each entry is told of once. -/
  total : pass.report.injected + pass.report.patched + pass.report.skipped +
    pass.report.failed = entries.length
  /-- As many records as it reports injected were put where there were none. -/
  injected : (inserting step table entries before).length = pass.report.injected
  /-- Their numbers were added, and none was lost. -/
  numbers : (table pass.state).ids.Perm ((table before).ids ++
    (inserting step table entries before).map fun turn => turn.entry.id)
  /-- They are all different and were all free. -/
  fresh : ((table before).ids ++
    (inserting step table entries before).map fun turn => turn.entry.id).Nodup
  /-- The table received as many writes as it reports records injected or patched. -/
  writes : (table pass.state).writes =
    (table before).writes + (pass.report.injected + pass.report.patched)
  /-- If it reports none, nothing at all was changed. -/
  idle : pass.report.injected = 0 → pass.report.patched = 0 → pass.state = before

/-- The report of a pass is right about a table where the outcome of each step is. -/
theorem accounts_of_becomes {σ δ α : Type} [Definition δ]
    {step : Entry δ → σ → Except (Halt σ) (Step σ)} [Atomic step] (table : σ → Table α)
    (becomes : ∀ entry state done, step entry state = .ok done →
      (table state).Becomes entry.id done.outcome (table done.state))
    (skips : ∀ entry state done, step entry state = .ok done → done.outcome = .skipped →
      done.state = state)
    (entries : List (Entry δ)) (before : σ) :
    Accounts step table entries before (runPass step entries before) := by
  have ids := ids_runPass table becomes entries before
  constructor
  case total => exact counted_runPass step entries before
  case injected =>
    have additive : Report.Additive Report.injected := ⟨rfl, fun _ _ => rfl⟩
    have counted := count_runPass additive _ (injected_of_turn table becomes) entries before
    rw [counted, inserting, List.countP_eq_length_filter]
  case numbers => exact ids
  case fresh => exact ids.nodup_iff.1 (Table.nodup_ids _)
  case writes =>
    have additive : Report.Additive fun report => report.injected + report.patched := by
      refine ⟨rfl, fun left right => ?_⟩
      simp only [Report.merge]
      omega
    exact measure_runPass additive (fun state => (table state).writes)
      (writes_of_turn table becomes) entries before
  case idle =>
    intro injected patched
    exact (runPass_of_idle (idle_of_report skips injected patched)).1

/-! ## Items -/

/-- The item table of a state. -/
def ItemState.items (state : ItemState) : Table ItemRecord :=
  state.tables.items

/-- A turn of the item pass reports a record injected when it puts one where there was none. -/
theorem injected_of_itemTurn (ids : IdRanges) (entry : Entry ItemDefinition) (state : ItemState) :
    (Turn.mk entry state (itemStep ids entry state)).report.injected =
      ((Turn.mk entry state (itemStep ids entry state)).inserts ItemState.items).toNat :=
  injected_of_turn ItemState.items (fun _ _ _ ok => itemStep_becomes ok) entry state

/-- What becomes of a new item: it is deferred when it waits for an icon. -/
theorem outcome_planAround (ids : IdRanges) (items : Table ItemRecord)
    (entry : Entry ItemDefinition) (variant : ItemVariant) (record : ItemRecord) :
    (planAround ids items entry variant record).outcome =
      if entry.AwaitsIcon items then .deferred else .injected := by
  rw [ItemPlan.outcome, awaits_planAround]
  by_cases waits : entry.AwaitsIcon items
  · simp [waits]
  · simp [waits]

/-- Whether a turn puts a record into the item table whose icon cannot be read. -/
def Turn.insertsWaiting (turn : Turn ItemState ItemDefinition) : Bool :=
  turn.inserts ItemState.items && decide (turn.entry.AwaitsIcon turn.state.items)

/-- A turn reports a record deferred when it puts one into the table whose icon cannot be read. -/
theorem deferred_of_turn (ids : IdRanges) (entry : Entry ItemDefinition) (state : ItemState) :
    (Turn.mk entry state (itemStep ids entry state)).report.deferred =
      (Turn.mk entry state (itemStep ids entry state)).insertsWaiting.toNat := by
  have inserts := injected_of_itemTurn ids entry state
  have turn := itemStep_turn ids entry state
  rw [Turn.insertsWaiting]
  generalize itemStep ids entry state = result at turn inserts ⊢
  cases turn with
  | made makes absent base record found accepted =>
    have outcome := outcome_planAround ids state.tables.items entry base.variant record
    by_cases waits : entry.AwaitsIcon state.tables.items
    · have told : decide (entry.AwaitsIcon state.items) = true := decide_eq_true waits
      simp only [Turn.report, outcome, if_pos waits, Report.ofOutcome] at inserts ⊢
      rw [Bool.toNat_eq_one.1 inserts.symm, told]
      rfl
    · have told : decide (entry.AwaitsIcon state.items) = false := decide_eq_false waits
      simp only [Turn.report, outcome, if_neg waits, Report.ofOutcome]
      rw [told, Bool.and_false]
      rfl
  | _ =>
    have none : Turn.inserts ItemState.items _ = false :=
      Bool.toNat_eq_zero.1 inserts.symm
    rw [none]
    rfl

/-- A turn writes two strings for every record that it reports injected. -/
theorem strings_of_turn (ids : IdRanges) (entry : Entry ItemDefinition) (state : ItemState) :
    (Turn.mk entry state (itemStep ids entry state)).after.tables.strings.writes =
      state.tables.strings.writes +
        2 * (Turn.mk entry state (itemStep ids entry state)).report.injected := by
  have turn := itemStep_turn ids entry state
  generalize itemStep ids entry state = result at turn ⊢
  cases turn with
  | made makes absent base record found accepted =>
    have injected : (Report.ofOutcome
        (planAround ids state.tables.items entry base.variant record).outcome).injected = 1 := by
      rw [outcome_planAround]
      split <;> rfl
    simp only [Turn.report, injected]
    rfl
  | _ => rfl

/-- After a turn that puts a record into the table whose icon cannot be read, the record waits for
the icon that its entry borrows. -/
theorem pending_of_turn {ids : IdRanges} {entry : Entry ItemDefinition} {state : ItemState}
    (waiting : (Turn.mk entry state (itemStep ids entry state)).insertsWaiting = true) :
    (Turn.mk entry state (itemStep ids entry state)).after.marks.pendingIcons.get? entry.id =
      some entry.definition.referenceItemId := by
  obtain ⟨inserts, waits⟩ := Bool.and_eq_true_iff.1 waiting
  have waits : entry.AwaitsIcon state.tables.items := of_decide_eq_true waits
  have injected := injected_of_itemTurn ids entry state
  rw [inserts] at injected
  have turn := itemStep_turn ids entry state
  generalize itemStep ids entry state = result at turn injected ⊢
  cases turn with
  | made makes absent base record found accepted =>
    change ((planAround ids state.tables.items entry base.variant record).marksAfter
      state.marks).pendingIcons.get? entry.id = _
    rw [ItemPlan.pendingIcons_marksAfter, awaits_planAround, if_pos waits]
    exact (IdMap.get?_insert _ _ _ _).trans (if_pos rfl)
  | _ => cases injected

/-- A step leaves alone what a record of the table waits for. -/
theorem itemStep_pending {ids : IdRanges} {entry : Entry ItemDefinition} {state : ItemState}
    {done : Step ItemState} (ok : itemStep ids entry state = .ok done) {id reference : Nat}
    (present : state.tables.items.contains id = true)
    (waits : state.marks.pendingIcons.get? id = some reference) :
    done.state.marks.pendingIcons.get? id = some reference := by
  cases itemTurn_of_ok ok with
  | upToDate | present | patched => exact waits
  | made makes absent base record found accepted =>
    have apart : entry.id ≠ id := by
      rintro rfl
      rw [absent] at present
      cases present
    change ((planAround ids state.tables.items entry base.variant record).marksAfter
      state.marks).pendingIcons.get? id = _
    rw [ItemPlan.pendingIcons_marksAfter]
    split
    · exact ((IdMap.get?_insert _ _ _ _).trans (if_neg apart)).trans waits
    · exact waits

/-- After a pass every record waits for its icon that the pass put into the table without it. -/
theorem pending_runPass {ids : IdRanges} {entries : List (Entry ItemDefinition)}
    {before : ItemState} {turn : Turn ItemState ItemDefinition}
    (member : turn ∈ turns (itemStep ids) entries before)
    (waiting : turn.insertsWaiting = true) :
    (runPass (itemStep ids) entries before).state.marks.pendingIcons.get? turn.entry.id =
      some turn.entry.definition.referenceItemId := by
  have put : turn.after.tables.items.contains turn.entry.id = true :=
    (Bool.and_eq_true_iff.1 (Bool.and_eq_true_iff.1 waiting).1).2
  obtain ⟨_, _, _, _, stepped⟩ := mem_turns_iff.1 member
  obtain ⟨entry, state, result⟩ := turn
  obtain rfl : result = itemStep ids entry state := stepped
  have kept := runPass_keeps_after (fun state : ItemState =>
      state.tables.items.contains entry.id = true ∧
        state.marks.pendingIcons.get? entry.id = some entry.definition.referenceItemId) member
    (fun _ _ _ _ ok holds => ⟨itemStep_contains ok holds.1, itemStep_pending ok holds.1 holds.2⟩)
    ⟨put, pending_of_turn waiting⟩
  exact kept.2

/-- What a pass over items reports is what it did to the tables and the marks. -/
structure ItemAccounts (ids : IdRanges) (entries : List (Entry ItemDefinition))
    (before : ItemState) (pass : Pass ItemState ItemDefinition) : Prop extends
    Accounts (itemStep ids) ItemState.items entries before pass where
  /-- Two strings were written for every record injected. -/
  strings : pass.state.tables.strings.writes =
    before.tables.strings.writes + 2 * pass.report.injected
  /-- As many records as it reports deferred were put there while their icon could not be read. -/
  deferred : ((inserting (itemStep ids) ItemState.items entries before).countP
    fun turn => turn.entry.AwaitsIcon turn.state.items) = pass.report.deferred
  /-- Each of them waits for the icon it borrows. -/
  pending : ∀ turn ∈ inserting (itemStep ids) ItemState.items entries before,
    turn.entry.AwaitsIcon turn.state.items → pass.state.marks.pendingIcons.get? turn.entry.id =
        some turn.entry.definition.referenceItemId
  /-- The recipes are as they were. -/
  recipes : pass.state.tables.recipes = before.tables.recipes

/-- A pass over items reports what it did. -/
theorem itemAccounts_runPass (ids : IdRanges) (entries : List (Entry ItemDefinition))
    (before : ItemState) :
    ItemAccounts ids entries before (runPass (itemStep ids) entries before) where
  toAccounts := accounts_of_becomes _ (fun _ _ _ => itemStep_becomes)
    (fun _ _ _ => itemStep_skipped) entries before
  strings := by
    have additive : Report.Additive fun report => 2 * report.injected := by
      refine ⟨rfl, fun left right => ?_⟩
      simp only [Report.merge]
      omega
    exact measure_runPass additive (fun state : ItemState => state.tables.strings.writes)
      (strings_of_turn ids) entries before
  deferred := by
    have additive : Report.Additive Report.deferred := ⟨rfl, fun _ _ => rfl⟩
    rw [count_runPass additive _ (deferred_of_turn ids), inserting, List.countP_filter]
    refine List.countP_congr fun turn _ => ?_
    rw [Turn.insertsWaiting, Bool.and_comm]
  pending := by
    intro turn member waits
    obtain ⟨inTurns, inserts⟩ := List.mem_filter.1 member
    refine pending_runPass inTurns ?_
    rw [Turn.insertsWaiting, inserts, decide_eq_true waits]
    rfl
  recipes := by
    refine runPass_keeps (fun state : ItemState => state.tables.recipes = before.tables.recipes)
      (fun entry _ state done ok same => ?_) rfl
    rw [itemStep_recipes ok, same]

/-! ## Recipes -/

/-- What a pass over recipes reports is what it did to the tables. -/
structure RecipeAccounts (ids : IdRanges) (items : Registry ItemDefinition)
    (entries : List (Entry RecipeDefinition)) (before : Tables)
    (pass : Pass Tables RecipeDefinition) : Prop extends
    Accounts (recipeStep ids items) Tables.recipes entries before pass where
  /-- It patches nothing. -/
  patched : pass.report.patched = 0
  /-- It defers nothing. -/
  deferred : pass.report.deferred = 0
  /-- The items are as they were. -/
  items : pass.state.items = before.items
  /-- The strings are as they were. -/
  strings : pass.state.strings = before.strings

/-- A turn of the recipe pass reports nothing patched and nothing deferred. -/
theorem plain_of_turn (ids : IdRanges) (items : Registry ItemDefinition)
    (entry : Entry RecipeDefinition) (tables : Tables) :
    (Turn.mk entry tables (recipeStep ids items entry tables)).report.patched = 0 ∧
      (Turn.mk entry tables (recipeStep ids items entry tables)).report.deferred = 0 := by
  have turn := recipeStep_turn ids items entry tables
  generalize recipeStep ids items entry tables = result at turn ⊢
  cases turn <;> exact ⟨rfl, rfl⟩

/-- A pass over recipes reports what it did. -/
theorem recipeAccounts_runPass (ids : IdRanges) (items : Registry ItemDefinition)
    (entries : List (Entry RecipeDefinition)) (before : Tables) :
    RecipeAccounts ids items entries before (runPass (recipeStep ids items) entries before) where
  toAccounts := accounts_of_becomes _ (fun _ _ _ => recipeStep_becomes)
    (fun _ _ _ => recipeStep_skipped) entries before
  patched := by
    have additive : Report.Additive Report.patched := ⟨rfl, fun _ _ => rfl⟩
    exact count_runPass_of_none additive (fun entry tables =>
      (plain_of_turn ids items entry tables).1) entries before
  deferred := by
    have additive : Report.Additive Report.deferred := ⟨rfl, fun _ _ => rfl⟩
    exact count_runPass_of_none additive (fun entry tables =>
      (plain_of_turn ids items entry tables).2) entries before
  items := by
    refine runPass_keeps (fun tables : Tables => tables.items = before.items)
      (fun entry _ tables done ok same => ?_) rfl
    rw [recipeStep_items ok, same]
  strings := by
    refine runPass_keeps (fun tables : Tables => tables.strings = before.strings)
      (fun entry _ tables done ok same => ?_) rfl
    have kept : done.state.strings = tables.strings := by
      cases recipeTurn_of_ok ok <;> rfl
    rw [kept, same]

/-- A pass over items that begins tells of each entry once. The records that were put into the table
are as many as it reports injected, with numbers that were free, and no record is lost. The table
received one write for each record injected or patched, and the strings two for each record
injected. The records that it reports deferred are those whose icon could not be read, and each
waits for it. A pass that reports nothing injected and nothing patched changed nothing. A pass over
recipes keeps the same account, with nothing patched and nothing deferred. -/
theorem pass_accounts_are_exact (ids : IdRanges) :
    (∀ (registry : Registry ItemDefinition) (before : ItemState),
      before.tables.items.isReady = true →
        ∃ pass, injectItems ids registry before = .ok pass ∧
          ItemAccounts ids registry.entries before pass) ∧
    ∀ (registry : Registry RecipeDefinition) (items : Registry ItemDefinition) (before : Tables),
      before.recipes.isReady = true →
        ∃ pass, injectRecipes ids registry items before = .ok pass ∧
          RecipeAccounts ids items registry.entries before pass := by
  constructor
  · intro registry before ready
    refine ⟨_, ?_, itemAccounts_runPass ids registry.entries before⟩
    rw [injectItems, if_pos ready]
  · intro registry items before ready
    refine ⟨_, ?_, recipeAccounts_runPass ids items registry.entries before⟩
    rw [injectRecipes, if_pos ready]

/-- Items of a stall: one that patches a template, one that finds it patched already, one that
borrows an icon of an item without one, and one whose base is missing. -/
def stallItems : Registry ItemDefinition :=
  (Registry.empty 60000).offerAll <|
    [{ id := "cheap", isModify := true, targetItemId := 1, price := 3 },
      { id := "again", isModify := true, targetItemId := 1, price := 3 },
      { id := "pouch", baseItem := 4, referenceItemId := 5 },
      { id := "ghost", baseItem := 9 }].map fun item =>
        { package := .inMemory "stall", definition := item }

/-- Recipes of the stall: one that makes the pouch, and one that makes nothing that is known. -/
def stallRecipes : Registry RecipeDefinition :=
  (Registry.empty 51000).offerAll <|
    [{ id := "sew", result := .name "pouch" }, { id := "conjure", result := .name "spirit" }].map
      fun recipe => { package := .inMemory "stall", definition := recipe }

/-- The passes over the items and the recipes of the stall, one of each outcome in the first. -/
theorem stall_accounts :
    Host.seeded.tables.items.isReady = true ∧ Host.seeded.tables.recipes.isReady = true ∧
    ∃ items recipes,
      injectItems {} stallItems ⟨Host.seeded.tables, .empty⟩ = .ok items ∧
      injectRecipes {} stallRecipes stallItems Host.seeded.tables = .ok recipes ∧
      items.report = ⟨1, 1, 1, 1, 1⟩ ∧ recipes.report = ⟨1, 0, 0, 0, 1⟩ ∧
      items.state.tables.items.writes = Host.seeded.tables.items.writes + 2 ∧
      items.state.tables.items.ids.length = Host.seeded.tables.items.ids.length + 1 ∧
      items.state.tables.strings.writes = Host.seeded.tables.strings.writes + 2 ∧
      recipes.state.recipes.writes = Host.seeded.tables.recipes.writes + 1 := by
  have ready : Host.seeded.tables.items.isReady = true := by decide
  have recipesReady : Host.seeded.tables.recipes.isReady = true := by decide
  obtain ⟨items, began, accounts⟩ :=
    (pass_accounts_are_exact {}).1 stallItems ⟨Host.seeded.tables, .empty⟩ ready
  obtain ⟨recipes, recipesBegan, recipeAccounts⟩ :=
    (pass_accounts_are_exact {}).2 stallRecipes stallItems Host.seeded.tables recipesReady
  have report : items.report = ⟨1, 1, 1, 1, 1⟩ := by
    obtain rfl := Except.ok.inj ((if_pos ready).symm.trans began)
    rfl
  have recipeReport : recipes.report = ⟨1, 0, 0, 0, 1⟩ := by
    obtain rfl := Except.ok.inj ((if_pos recipesReady).symm.trans recipesBegan)
    rfl
  have writes := accounts.writes
  have strings := accounts.strings
  have recipeWrites := recipeAccounts.writes
  have numbers := accounts.numbers.length_eq
  rw [List.length_append, List.length_map, accounts.injected] at numbers
  rw [report] at writes strings numbers
  rw [recipeReport] at recipeWrites
  exact ⟨ready, recipesReady, items, recipes, began, recipesBegan, report, recipeReport, writes,
    numbers, strings, recipeWrites⟩

end Modpack
