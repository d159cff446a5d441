import Modpack.Proofs.Engines

/-!
# What the probes see

Before it injects again the engine probes the tables. The probe looks at the first item and the
first recipe that have numbers of their own, and at every patch; it does not look at later items
and recipes. Of every entry it is said here when a pass finds nothing to do for it, so that the
two can be compared.
-/
namespace Modpack

/-- If the target of a patch is there, it shows all that the patch asks for. -/
def Entry.Current (items : Table ItemRecord) (entry : Entry ItemDefinition) : Prop :=
  ∀ record, items.get? entry.definition.targetItemId = some record →
    ∀ write ∈ entry.definition.patchValues items, record.lacks write = false

/-- A new item is in the table, or cannot be made because its base is not. -/
def Entry.ItemDone (items : Table ItemRecord) (entry : Entry ItemDefinition) : Prop :=
  items.contains entry.id = true ∨ items.get? entry.definition.baseItem = none

/-- A recipe is in the table, or cannot be made because something it needs is missing. -/
def Entry.RecipeDone (ids : IdRanges) (items : Registry ItemDefinition)
    (recipes : Table RecipeRecord) (entry : Entry RecipeDefinition) : Prop :=
  recipes.contains entry.id = true ∨ ∃ cause, planRecipe ids items recipes entry = .error cause

/-! ## Entries without work -/

section Idle

variable {ids : IdRanges} {state : ItemState} {entry : Entry ItemDefinition}

/-- For a patch there is nothing to do when it is current. -/
theorem idle_iff_current (patches : entry.isPatch = true) :
    Idle (itemStep ids) state entry ↔ entry.Current state.tables.items := by
  have turn := itemStep_turn ids entry state
  rw [Idle]
  generalize itemStep ids entry state = result at turn ⊢
  cases turn with
  | targetMissing _ missing =>
    refine ⟨fun _ record found => ?_, fun _ => .inr ⟨_, rfl⟩⟩
    rw [missing] at found
    cases found
  | upToDate _ record found current =>
    refine ⟨fun _ other found' write member => ?_, fun _ => .inl ⟨_, rfl⟩⟩
    obtain rfl : record = other := Option.some.inj (found.symm.trans found')
    exact Bool.eq_false_iff.2 (List.filter_eq_nil_iff.1 current write member)
  | patched _ record written found outdated accepted =>
    constructor
    · rintro (⟨_, skipped⟩ | ⟨_, failed⟩)
      · cases skipped
      · cases failed
    · intro current
      refine absurd (List.filter_eq_nil_iff.2 fun write member => ?_) outdated
      exact Bool.eq_false_iff.1 (current record found write member)
  | present makes | baseMissing makes | made makes =>
    rw [patches] at makes
    cases makes

/-- For a new item there is nothing to do when it is done. -/
theorem idle_iff_itemDone (makes : entry.isPatch = false) :
    Idle (itemStep ids) state entry ↔ entry.ItemDone state.tables.items := by
  have turn := itemStep_turn ids entry state
  rw [Idle]
  generalize itemStep ids entry state = result at turn ⊢
  cases turn with
  | targetMissing patches | upToDate patches | patched patches =>
    rw [makes] at patches
    cases patches
  | present _ present => exact ⟨fun _ => .inl present, fun _ => .inl ⟨_, rfl⟩⟩
  | baseMissing _ absent missing => exact ⟨fun _ => .inr missing, fun _ => .inr ⟨_, rfl⟩⟩
  | made _ absent base record found accepted =>
    constructor
    · rintro (⟨_, skipped⟩ | ⟨_, failed⟩)
      · have outcome := congrArg Step.outcome (Except.ok.inj skipped)
        simp only [ItemPlan.outcome] at outcome
        split at outcome <;> cases outcome
      · cases failed
    · rintro (present | missing)
      · rw [absent] at present
        cases present
      · rw [found] at missing
        cases missing

/-- For a recipe there is nothing to do when it is done. -/
theorem idle_iff_recipeDone {items : Registry ItemDefinition} {tables : Tables}
    {entry : Entry RecipeDefinition} :
    Idle (recipeStep ids items) tables entry ↔
      entry.RecipeDone ids items tables.recipes := by
  have turn := recipeStep_turn ids items entry tables
  rw [Idle]
  generalize recipeStep ids items entry tables = result at turn ⊢
  cases turn with
  | present present => exact ⟨fun _ => .inl present, fun _ => .inl ⟨_, rfl⟩⟩
  | failed absent cause failed =>
    exact ⟨fun _ => .inr ⟨cause, failed⟩, fun _ => .inr ⟨_, rfl⟩⟩
  | made absent plan planned =>
    constructor
    · rintro (⟨_, skipped⟩ | ⟨_, failed⟩)
      · cases skipped
      · cases failed
    · rintro (present | ⟨cause, failed⟩)
      · rw [absent] at present
        cases present
      · rw [planned] at failed
        cases failed

end Idle

/-! ## The probes -/

/-- No patch has lost its effect when each of them is current. -/
theorem patchesOutdated_eq_false_iff (registry : Registry ItemDefinition)
    (items : Table ItemRecord) :
    patchesOutdated registry items = false ↔
      ∀ entry ∈ registry.entries, entry.isPatch = true → entry.Current items := by
  rw [patchesOutdated, List.any_eq_false]
  refine forall₂_congr fun entry _ => ?_
  cases patches : entry.isPatch with
  | false => simp
  | true =>
    simp only [ItemDefinition.patchWrites?, Entry.Current, Bool.true_and]
    cases items.get? entry.definition.targetItemId with
    | none => simp
    | some record => simp [List.filter_eq_nil_iff]

/-- The probe for the first number finds it, or there is none. -/
theorem Registry.needsInjection_eq_false_iff {δ : Type} [Definition δ] (registry : Registry δ)
    (contains : Nat → Bool) :
    registry.needsInjection contains = false ↔
      ∀ id, registry.firstAllocated? = some id → contains id = true := by
  rw [needsInjection]
  cases registry.firstAllocated? with
  | none => simp
  | some id => simp

/-- The engine finds nothing amiss when the first item, the first recipe and every patch are as
they should be. -/
theorem Engine.needsInjection_eq_false_iff (engine : Engine) (tables : Tables) :
    engine.needsInjection tables = false ↔
      (∀ id, engine.items.firstAllocated? = some id → tables.items.contains id = true) ∧
      (∀ id, engine.recipes.firstAllocated? = some id → tables.recipes.contains id = true) ∧
      ∀ entry ∈ engine.items.entries, entry.isPatch = true → entry.Current tables.items := by
  rw [needsInjection, Bool.or_eq_false_iff, Bool.or_eq_false_iff,
    Registry.needsInjection_eq_false_iff, Registry.needsInjection_eq_false_iff,
    patchesOutdated_eq_false_iff, and_assoc]

/-- Engines with the same content find the same amiss. -/
theorem Engine.needsInjection_of_sameContent {first second : Engine}
    (same : first.SameContent second) (tables : Tables) :
    first.needsInjection tables = second.needsInjection tables := by
  have patches (engine : Engine) : patchesOutdated engine.items.forget tables.items =
      patchesOutdated engine.items tables.items := by
    rw [patchesOutdated, patchesOutdated, Registry.forget, List.any_map]
    rfl
  rw [needsInjection, needsInjection, ← patches first, ← patches second, same.items,
    ← Registry.needsInjection_forget first.items, ← Registry.needsInjection_forget first.recipes,
    same.items, same.recipes, Registry.needsInjection_forget, Registry.needsInjection_forget]

/-- The first number belongs to an entry that makes a new record. -/
theorem Registry.exists_of_firstAllocated? {δ : Type} [Definition δ] {registry : Registry δ}
    {id : Nat} (first : registry.firstAllocated? = some id) :
    ∃ entry ∈ registry.entries, entry.isPatch = false ∧ entry.id = id := by
  obtain ⟨entry, found, same⟩ := Option.map_eq_some_iff.1 first
  refine ⟨entry, List.mem_of_find?_eq_some found, ?_, same⟩
  simpa using List.find?_some found

/-- Where the counter is in range, the tables have nothing from the base on and the probe finds
nothing amiss, there is nothing to make. -/
theorem Registry.Sound.isPatch_of_needsInjection {δ : Type} [Definition δ]
    {registry : Registry δ} {known : δ → Prop} (sound : registry.Sound known)
    (inRange : registry.InRange) {contains : Nat → Bool}
    (absent : ∀ id, registry.base ≤ id → contains id = false)
    (fine : registry.needsInjection contains = false) :
    ∀ entry ∈ registry.entries, entry.isPatch = true := by
  intro entry member
  by_contra makes
  have makes' : entry.isPatch = false := Bool.eq_false_iff.2 makes
  have found : (registry.firstAllocated?).isSome = true := by
    rw [firstAllocated?, Option.isSome_map, List.find?_isSome]
    exact ⟨entry, member, by rw [makes']; rfl⟩
  obtain ⟨id, first⟩ := Option.isSome_iff_exists.1 found
  obtain ⟨other, otherMember, otherMakes, rfl⟩ := exists_of_firstAllocated? first
  have present := (registry.needsInjection_eq_false_iff contains).1 fine other.id first
  rw [absent other.id (sound.bounds inRange otherMember otherMakes).1] at present
  cases present

end Modpack
