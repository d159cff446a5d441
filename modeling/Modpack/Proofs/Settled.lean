import Modpack.Proofs.Probes

/-!
# When nothing is left to do

The tables are settled for an engine when no entry has anything left to do. Then both passes leave
them exactly as they are and report nothing put and nothing patched; and when the passes do either
of these, the tables were settled.
-/
namespace Modpack

/-- No entry of the engine has anything left to do in the tables. -/
structure Engine.Settled (engine : Engine) (tables : Tables) : Prop where
  /-- Every patch is current. -/
  patches : ∀ entry ∈ engine.items.entries, entry.isPatch = true → entry.Current tables.items
  /-- Every new item is there, or its base is missing. -/
  items : ∀ entry ∈ engine.items.entries, entry.isPatch = false → entry.ItemDone tables.items
  /-- Every recipe is there, or something it needs is missing. -/
  recipes : ∀ entry ∈ engine.recipes.entries,
    entry.RecipeDone engine.ids engine.items tables.recipes

namespace Engine

variable {engine : Engine} {tables : Tables}

/-- Whether a recipe is done does not depend on the records last written for the items. -/
theorem recipeDone_of_sameContent {first second : Engine} (same : first.SameContent second)
    (recipes : Table RecipeRecord) (entry : Entry RecipeDefinition) :
    entry.RecipeDone first.ids first.items recipes ↔
      entry.RecipeDone second.ids second.items recipes := by
  rw [Entry.RecipeDone, Entry.RecipeDone,
    planRecipe_congr (Registry.resolveItem?_of_forget_eq same.items), same.ids]

/-- Tables are settled for an engine when they are for one with the same content. -/
theorem Settled.of_sameContent {first second : Engine} (settled : second.Settled tables)
    (same : first.SameContent second) : first.Settled tables := by
  refine ⟨?_, ?_, ?_⟩
  · intro entry member patches
    obtain ⟨other, otherMember, forgotten⟩ :=
      Registry.exists_mem_of_forget_eq same.items member
    have current := settled.patches other otherMember
    rw [← Entry.isPatch_forget, forgotten] at current
    exact show entry.forget.Current tables.items from forgotten ▸ current patches
  · intro entry member makes
    obtain ⟨other, otherMember, forgotten⟩ :=
      Registry.exists_mem_of_forget_eq same.items member
    have done := settled.items other otherMember
    rw [← Entry.isPatch_forget, forgotten] at done
    exact show entry.forget.ItemDone tables.items from forgotten ▸ done makes
  · intro entry member
    obtain ⟨other, otherMember, forgotten⟩ :=
      Registry.exists_mem_of_forget_eq same.recipes member
    have done := (recipeDone_of_sameContent same tables.recipes other).2
      (settled.recipes other otherMember)
    exact show entry.forget.RecipeDone first.ids first.items tables.recipes from
      forgotten ▸ done

/-- No item has anything left to do when all patches are current and all new items are done. -/
theorem idle_items_iff :
    (∀ entry ∈ engine.items.entries,
        Idle (itemStep engine.ids) ⟨tables, engine.marks⟩ entry) ↔
      (∀ entry ∈ engine.items.entries, entry.isPatch = true → entry.Current tables.items) ∧
        ∀ entry ∈ engine.items.entries, entry.isPatch = false → entry.ItemDone tables.items := by
  constructor
  · intro idle
    exact ⟨fun entry member patches => (idle_iff_current patches).1 (idle entry member),
      fun entry member makes => (idle_iff_itemDone makes).1 (idle entry member)⟩
  · rintro ⟨patches, items⟩ entry member
    cases kind : entry.isPatch with
    | true => exact (idle_iff_current kind).2 (patches entry member kind)
    | false => exact (idle_iff_itemDone kind).2 (items entry member kind)

/-- No recipe has anything left to do when all are done. -/
theorem idle_recipes_iff :
    (∀ entry ∈ engine.recipes.entries,
        Idle (recipeStep engine.ids (engine.afterItems tables).items) tables entry) ↔
      ∀ entry ∈ engine.recipes.entries,
        entry.RecipeDone engine.ids engine.items tables.recipes := by
  refine forall₂_congr fun entry _ => idle_iff_recipeDone.trans ?_
  exact recipeDone_of_sameContent (sameContent_afterItems engine tables) tables.recipes entry

/-- Over settled tables both passes change nothing and report nothing put and nothing patched. -/
theorem Settled.idle (settled : engine.Settled tables) :
    (engine.fullInjection tables).tables = tables ∧
      (engine.fullInjection tables).report.injected = 0 ∧
      (engine.fullInjection tables).report.patched = 0 := by
  obtain ⟨same, injected, patched⟩ :=
    runPass_of_idle (idle_items_iff.2 ⟨settled.patches, settled.items⟩)
  have between : (engine.itemPass tables).state.tables = tables := congrArg ItemState.tables same
  obtain ⟨sameRecipes, injectedRecipes, patchedRecipes⟩ :=
    runPass_of_idle (idle_recipes_iff.2 settled.recipes)
  rw [fullInjection]
  simp only [between]
  refine ⟨sameRecipes, ?_, ?_⟩
  · change (engine.itemPass tables).report.injected +
      ((engine.afterItems tables).recipePass tables).report.injected = 0
    exact Nat.add_eq_zero_iff.2 ⟨injected, injectedRecipes⟩
  · change (engine.itemPass tables).report.patched +
      ((engine.afterItems tables).recipePass tables).report.patched = 0
    exact Nat.add_eq_zero_iff.2 ⟨patched, patchedRecipes⟩

/-- Once the items are settled, the recipe pass begins with the tables as they were. -/
theorem settled_of_idle
    (items : ∀ entry ∈ engine.items.entries,
      Idle (itemStep engine.ids) ⟨tables, engine.marks⟩ entry)
    (recipes : ∀ entry ∈ engine.recipes.entries,
      Idle (recipeStep engine.ids (engine.afterItems tables).items) tables entry) :
    engine.Settled tables :=
  ⟨(idle_items_iff.1 items).1, (idle_items_iff.1 items).2, idle_recipes_iff.1 recipes⟩

/-- Where both passes report nothing put and nothing patched, the tables were settled. -/
theorem settled_of_report (injected : (engine.fullInjection tables).report.injected = 0)
    (patched : (engine.fullInjection tables).report.patched = 0) : engine.Settled tables := by
  rw [fullInjection] at injected patched
  simp only [Report.merge, Nat.add_eq_zero_iff] at injected patched
  have items := idle_of_report (fun entry state done ok skipped => itemStep_skipped ok skipped)
    injected.1 patched.1
  have between : (engine.itemPass tables).state.tables = tables :=
    congrArg ItemState.tables (runPass_of_idle items).1
  rw [between] at injected patched
  exact settled_of_idle items (idle_of_report
    (fun entry state done ok skipped => recipeStep_skipped ok skipped) injected.2 patched.2)

/-- Where both passes leave the tables as they are, the tables were settled. -/
theorem settled_of_unchanged (unchanged : (engine.fullInjection tables).tables = tables) :
    engine.Settled tables := by
  have kept := recipePass_items (engine.afterItems tables) (engine.itemPass tables).state.tables
  have itemWrites : (engine.itemPass tables).state.tables.items.writes = tables.items.writes :=
    congrArg Table.writes (kept.symm.trans (congrArg Tables.items unchanged))
  have items := idle_of_measure (fun entry state done ok => itemStep_writes ok) itemWrites
  have between : (engine.itemPass tables).state.tables = tables :=
    congrArg ItemState.tables (runPass_of_idle items).1
  rw [fullInjection] at unchanged
  simp only [between] at unchanged
  refine settled_of_idle items (idle_of_measure
    (fun entry state done ok => recipeStep_writes ok) ?_)
  exact congrArg (fun tables : Tables => tables.recipes.writes) unchanged

/-- Over tables that are ready both passes run, and come to what an injection that is not skipped
comes to. -/
theorem passes_of_ready (engine : Engine) {tables : Tables}
    (itemsReady : tables.items.isReady = true) (recipesReady : tables.recipes.isReady = true) :
    ∃ items recipes, engine.injectItems tables = .ok items ∧
      items.engine.injectRecipes items.tables = .ok recipes ∧
      recipes.tables = (engine.fullInjection tables).tables ∧
      items.report.merge recipes.report = (engine.fullInjection tables).report := by
  have ready : (engine.itemPass tables).state.tables.recipes.isReady = true := by
    rw [itemPass_recipes]
    exact recipesReady
  exact ⟨_, _, injectItems_of_ready itemsReady, injectRecipes_of_ready ready, rfl, rfl⟩

end Engine

end Modpack
