import Modpack.Proofs.Engines

/-!
# Passes over tables that show the same

Nothing injection does depends on which handles records have, how often tables were written, what
the strings are, or which icons are awaited. So over tables that show the same, engines with the
same content report the same and leave tables that show the same again.
-/
namespace Modpack

/-- Grounded tables that show the same items and the same recipes. -/
structure Tables.ShowsAs (left right : Tables) : Prop where
  /-- They show the same items. -/
  items : left.itemView = right.itemView
  /-- They show the same recipes. -/
  recipes : left.recipeView = right.recipeView
  /-- The first are grounded. -/
  left : left.Grounded
  /-- The second are grounded. -/
  right : right.Grounded

/-- Records that show the same have the same plain part. -/
theorem ItemRecord.plain_of_view {left right : ItemRecord} {store other : ListStore}
    (views : left.view store = right.view other) : left.plain = right.plain :=
  congrArg ItemView.plain views

/-- Records that show the same have the same fields. -/
theorem ItemRecord.get?_of_view {left right : ItemRecord} {store other : ListStore}
    (views : left.view store = right.view other) (field : ItemField) :
    left.get? field = right.get? field := by
  rw [← get?_plain, plain_of_view views, get?_plain]

/-- Records that show the same lack the same. -/
theorem ItemRecord.lacks_of_view {left right : ItemRecord} {store other : ListStore}
    (views : left.view store = right.view other) : left.lacks = right.lacks := by
  funext write
  rw [lacks, lacks, get?_of_view views]

namespace Tables

variable {left right : Tables}

/-- Where one table has no item the other has none. -/
theorem get?_none_of_itemView (views : left.itemView = right.itemView) {id : Nat}
    (missing : left.items.get? id = none) : right.items.get? id = none := by
  have shown : right.itemView.get? id = none := by
    rw [← views, get?_itemView, missing]
    rfl
  rw [get?_itemView] at shown
  exact Option.map_eq_none_iff.1 shown

/-- Where one table has an item the other has one that shows the same. -/
theorem get?_some_of_itemView (views : left.itemView = right.itemView) {id : Nat}
    {record : ItemRecord} (found : left.items.get? id = some record) :
    ∃ record', right.items.get? id = some record' ∧
      record.view left.lists = record'.view right.lists := by
  have shown : right.itemView.get? id = some (record.view left.lists) := by
    rw [← views, get?_itemView, found]
    rfl
  rw [get?_itemView] at shown
  obtain ⟨record', found', same⟩ := Option.map_eq_some_iff.1 shown
  exact ⟨record', found', same.symm⟩

/-- Tables that show the same items have the same. -/
theorem contains_of_itemView (views : left.itemView = right.itemView) (id : Nat) :
    left.items.contains id = right.items.contains id := by
  rw [← contains_itemView, views, contains_itemView]

/-- Tables that show the same recipes have the same. -/
theorem contains_of_recipeView (views : left.recipeView = right.recipeView) (id : Nat) :
    left.recipes.contains id = right.recipes.contains id := by
  rw [← contains_recipeView, views, contains_recipeView]

/-- Tables that show the same items show the same icons. -/
theorem iconOf?_of_itemView (views : left.itemView = right.itemView) (id : Nat) :
    iconOf? left.items id = iconOf? right.items id := by
  rw [iconOf?, iconOf?]
  cases found : left.items.get? id with
  | none => rw [get?_none_of_itemView views found]
  | some record =>
    obtain ⟨record', found', same⟩ := get?_some_of_itemView views found
    rw [found']
    exact ItemRecord.get?_of_view same .icon

/-- Over tables that show the same items a patch asks for the same. -/
theorem patchValues_of_itemView (views : left.itemView = right.itemView)
    (item : ItemDefinition) : item.patchValues left.items = item.patchValues right.items := by
  simp only [ItemDefinition.patchValues, iconOf?_of_itemView views]

/-- Over tables that show the same items a new item has its icon from the same source. -/
theorem iconSource_of_itemView (views : left.itemView = right.itemView)
    (entry : Entry ItemDefinition) :
    iconSource left.items entry = iconSource right.items entry := by
  simp only [iconSource, iconOf?_of_itemView views]

end Tables

/-! ## The item pass -/

/-- A step comes to what a turn says. -/
theorem itemStep_eq_of_turn {ids : IdRanges} {entry : Entry ItemDefinition} {state : ItemState}
    {result : Except (Halt ItemState) (Step ItemState)} (turn : ItemTurn ids entry state result) :
    itemStep ids entry state = result := by
  cases turn with
  | targetMissing patches missing =>
    rw [itemStep, if_pos patches, patchStep]
    simp only [missing]
  | upToDate patches record found current =>
    rw [itemStep, if_pos patches, patchStep]
    simp only [ItemDefinition.patchWrites?, found, Option.map_some, current]
    rfl
  | patched patches record written found outdated accepted =>
    have writes := List.isEmpty_eq_false_iff.2 outdated
    have written' := ItemRecord.setEach_of_setAll accepted
    rw [itemStep, if_pos patches, patchStep]
    simp only [ItemDefinition.patchWrites?, found, Option.map_some, writes, written']
    rfl
  | present makes present => rw [itemStep, if_neg (Bool.eq_false_iff.1 makes), if_pos present]
  | baseMissing makes absent missing =>
    rw [itemStep, if_neg (Bool.eq_false_iff.1 makes), if_neg (Bool.eq_false_iff.1 absent),
      makeItem_eq, planItem_of_missing missing]
    rfl
  | made makes absent base record found accepted =>
    obtain ⟨record', accepted', planned⟩ := planItem_of_base ids found
    obtain rfl : record = record' := Except.ok.inj (accepted.symm.trans accepted')
    rw [itemStep, if_neg (Bool.eq_false_iff.1 makes), if_neg (Bool.eq_false_iff.1 absent),
      makeItem_eq, planned]
    rfl

/-- Putting items that show the same into tables that do keeps them so. -/
theorem Tables.ShowsAs.putItem {left right : Tables} (shows : left.ShowsAs right)
    {lists lists' : ListStore} (extended : left.lists.ExtendedBy lists)
    (extended' : right.lists.ExtendedBy lists') (strings strings' : StringTable) (id : Nat)
    {record record' : ItemRecord} (made : ∀ list, lists.Made (record.handle list))
    (made' : ∀ list, lists'.Made (record'.handle list))
    (views : record.view lists = record'.view lists') :
    (left.putItem lists strings id record).ShowsAs (right.putItem lists' strings' id record') := by
  refine ⟨?_, ?_, shows.left.putItem extended strings id made,
    shows.right.putItem extended' strings' id made'⟩
  · rw [shows.left.itemView_putItem extended, shows.right.itemView_putItem extended', shows.items,
      views]
  · rw [shows.left.recipeView_putItem extended, shows.right.recipeView_putItem extended',
      shows.recipes]

/-- Carrying out plans around records that show the same, over tables that do, keeps them so. -/
theorem Tables.ShowsAs.carryOut {left right : ItemState} (shows : left.tables.ShowsAs right.tables)
    (ids : IdRanges) (entry : Entry ItemDefinition) (variant : ItemVariant)
    {record record' : ItemRecord} (made : ∀ list, left.tables.lists.Made (record.handle list))
    (made' : ∀ list, right.tables.lists.Made (record'.handle list))
    (views : record.view left.tables.lists = record'.view right.tables.lists) :
    ((planAround ids left.tables.items entry variant record).carryOut left).tables.ShowsAs
      ((planAround ids right.tables.items entry variant record').carryOut right).tables := by
  have apart := ItemPlan.pushesApart_planAround ids left.tables.items entry variant record
  have apart' := ItemPlan.pushesApart_planAround ids right.tables.items entry variant record'
  rw [ItemPlan.carryOut_eq, ItemPlan.carryOut_eq]
  refine shows.putItem (ItemPlan.extendedBy_finished apart) (ItemPlan.extendedBy_finished apart')
    _ _ _ (ItemPlan.made_finished made) (ItemPlan.made_finished made') ?_
  rw [ItemPlan.view_finished apart made, ItemPlan.view_finished apart' made']
  simp only [ItemPlan.shown, planAround, views]
  rfl

/-- Over tables that show the same a step of the item pass answers alike. -/
theorem itemStep_alike (ids : IdRanges) (entry : Entry ItemDefinition) {left right : ItemState}
    (shows : left.tables.ShowsAs right.tables) :
    Alike (fun left right : ItemState => left.tables.ShowsAs right.tables)
      (itemStep ids entry left) (itemStep ids entry right) := by
  have values := Tables.patchValues_of_itemView shows.items entry.definition
  have turn := itemStep_turn ids entry left
  generalize itemStep ids entry left = result at turn ⊢
  cases turn with
  | targetMissing patches missing =>
    have missing' := Tables.get?_none_of_itemView shows.items missing
    rw [itemStep_eq_of_turn (.targetMissing patches missing')]
    exact rfl
  | upToDate patches record found current =>
    obtain ⟨record', found', same⟩ := Tables.get?_some_of_itemView shows.items found
    rw [ItemRecord.lacks_of_view same, values] at current
    rw [itemStep_eq_of_turn (.upToDate patches record' found' current)]
    exact ⟨rfl, shows⟩
  | patched patches record written found outdated accepted =>
    obtain ⟨record', found', same⟩ := Tables.get?_some_of_itemView shows.items found
    obtain ⟨written', accepted', same'⟩ := ItemRecord.view_setAll same accepted
    have made := shows.left.made_of_setAll found accepted
    have made' := shows.right.made_of_setAll found' accepted'
    rw [ItemRecord.lacks_of_view same, values] at outdated accepted'
    rw [itemStep_eq_of_turn (.patched patches record' written' found' outdated accepted')]
    exact ⟨rfl, shows.putItem (.refl _) (.refl _) _ _ _ made made' same'⟩
  | present makes present =>
    rw [Tables.contains_of_itemView shows.items] at present
    rw [itemStep_eq_of_turn (.present makes present)]
    exact ⟨rfl, shows⟩
  | baseMissing makes absent missing =>
    have missing' := Tables.get?_none_of_itemView shows.items missing
    rw [Tables.contains_of_itemView shows.items] at absent
    rw [itemStep_eq_of_turn (.baseMissing makes absent missing')]
    exact rfl
  | made makes absent base record found accepted =>
    obtain ⟨base', found', same⟩ := Tables.get?_some_of_itemView shows.items found
    obtain ⟨record', accepted', same'⟩ := ItemRecord.view_setAll same accepted
    have made := shows.left.made_of_setAll found accepted
    have made' := shows.right.made_of_setAll found' accepted'
    have variant : base.variant = base'.variant :=
      show base.plain.variant = base'.plain.variant from
        congrArg ItemRecord.variant (ItemRecord.plain_of_view same)
    have source := Tables.iconSource_of_itemView shows.items entry
    rw [newWrites, source, variant, ← newWrites] at accepted'
    rw [Tables.contains_of_itemView shows.items] at absent
    rw [itemStep_eq_of_turn (.made makes absent base' record' found' accepted')]
    refine ⟨?_, ?_⟩
    · simp only [planAround, ItemPlan.outcome, source]
      rfl
    · rw [variant]
      exact shows.carryOut ids entry base'.variant made made' same'

/-! ## The recipe pass -/

/-- A recipe plan without the handles of its record. -/
def RecipePlan.plain (plan : RecipePlan) : RecipePlan :=
  { plan with record := plan.record.plain }

/-- What a plan shows once carried out does not depend on its handles. -/
theorem RecipePlan.shown_plain (plan : RecipePlan) : plan.plain.shown = plan.shown := rfl

section Recipes

variable {left right : Tables}

/-- Tables that show the same recipes have them with the same plain parts. -/
theorem Tables.plainRecipes_of_recipeView (views : left.recipeView = right.recipeView) :
    left.recipes.records.map RecipeRecord.plain =
      right.recipes.records.map RecipeRecord.plain := by
  have both := congrArg (fun view => IdMap.map RecipeView.plain view) views
  simp only [Tables.recipeView, IdMap.map_map] at both
  exact both

/-- Over tables that show the same recipes the same template is taken, but for its handles. -/
theorem templateFor_of_recipeView (views : left.recipeView = right.recipeView)
    (entry : Entry RecipeDefinition) :
    (templateFor left.recipes entry).map RecipeRecord.plain =
      (templateFor right.recipes entry).map RecipeRecord.plain := by
  have plain := Tables.plainRecipes_of_recipeView views
  rw [templateFor, templateFor]
  cases entry.definition.baseRecipe with
  | some base =>
    have found : (left.recipes.get? base).map RecipeRecord.plain =
        (right.recipes.get? base).map RecipeRecord.plain := by
      rw [Table.get?, Table.get?, ← IdMap.get?_map, plain, IdMap.get?_map]
    cases first : left.recipes.get? base <;> cases second : right.recipes.get? base <;>
      simp_all [Except.map]
  | none =>
    have entries : left.recipes.records.entries.map (fun found => (found.1, found.2.plain)) =
        right.recipes.records.entries.map fun found => (found.1, found.2.plain) :=
      congrArg IdMap.entries plain
    have found := congrArg
      (List.find? fun found : Nat × RecipeRecord => found.2.isItemRecipe) entries
    rw [List.find?_map, List.find?_map] at found
    change (left.recipes.records.entries.find? fun found => found.2.isItemRecipe).map _ =
      (right.recipes.records.entries.find? fun found => found.2.isItemRecipe).map _ at found
    cases first : left.recipes.records.entries.find? fun found => found.2.isItemRecipe <;>
      cases second : right.recipes.records.entries.find? fun found => found.2.isItemRecipe <;>
      simp_all [Except.map]

/-- Over tables that show the same recipes a recipe is planned the same, but for its handles. -/
theorem planRecipe_of_recipeView (views : left.recipeView = right.recipeView) (ids : IdRanges)
    (items : Registry ItemDefinition) (entry : Entry RecipeDefinition) :
    (planRecipe ids items left.recipes entry).map RecipePlan.plain =
      (planRecipe ids items right.recipes entry).map RecipePlan.plain := by
  have templates := templateFor_of_recipeView views entry
  rw [planRecipe, planRecipe]
  cases items.resolveItem? entry.package.id entry.definition.result with
  | none => rfl
  | some result =>
    cases resolveIngredients items entry with
    | error cause => rfl
    | ok ingredients =>
      cases first : templateFor left.recipes entry with
      | error cause =>
        rw [first] at templates
        cases second : templateFor right.recipes entry with
        | error cause' =>
          rw [second] at templates
          cases templates
          rfl
        | ok template =>
          rw [second] at templates
          cases templates
      | ok template =>
        rw [first] at templates
        obtain ⟨template', second, plain⟩ := Except.eq_ok_of_map_eq_ok templates.symm
        rw [second]
        have written : (template.setAll (recipeWrites ids entry result)).map RecipeRecord.plain =
            (template'.setAll (recipeWrites ids entry result)).map RecipeRecord.plain := by
          rw [← RecipeRecord.setAll_plain, ← RecipeRecord.setAll_plain, plain]
        simp only [Bind.bind, Except.bind]
        cases one : template.setAll (recipeWrites ids entry result) <;>
          cases two : template'.setAll (recipeWrites ids entry result) <;>
          simp_all [Except.map, RecipePlan.plain]

/-- Putting recipes that show the same into tables that do keeps them so. -/
theorem Tables.ShowsAs.putRecipe (shows : left.ShowsAs right) {lists lists' : ListStore}
    (extended : left.lists.ExtendedBy lists) (extended' : right.lists.ExtendedBy lists') (id : Nat)
    {record record' : RecipeRecord} (made : ∀ list, lists.Made (record.handle list))
    (made' : ∀ list, lists'.Made (record'.handle list))
    (views : record.view lists = record'.view lists') :
    (left.putRecipe lists id record).ShowsAs (right.putRecipe lists' id record') := by
  refine ⟨?_, ?_, shows.left.putRecipe extended id made,
    shows.right.putRecipe extended' id made'⟩
  · rw [shows.left.itemView_putRecipe extended, shows.right.itemView_putRecipe extended',
      shows.items]
  · rw [shows.left.recipeView_putRecipe extended, shows.right.recipeView_putRecipe extended',
      shows.recipes, views]

/-- Over tables that show the same a step of the recipe pass answers alike. -/
theorem recipeStep_alike (ids : IdRanges) (items : Registry ItemDefinition)
    (entry : Entry RecipeDefinition) (shows : left.ShowsAs right) :
    Alike Tables.ShowsAs (recipeStep ids items entry left) (recipeStep ids items entry right) := by
  have plans := planRecipe_of_recipeView shows.recipes ids items entry
  have present := Tables.contains_of_recipeView shows.recipes entry.id
  rw [recipeStep, recipeStep, present]
  by_cases there : right.recipes.contains entry.id = true
  · rw [if_pos there, if_pos there]
    exact ⟨rfl, shows⟩
  · rw [if_neg there, if_neg there]
    cases first : planRecipe ids items left.recipes entry with
    | error cause =>
      rw [first] at plans
      cases second : planRecipe ids items right.recipes entry with
      | error cause' =>
        rw [second] at plans
        cases plans
        exact rfl
      | ok plan =>
        rw [second] at plans
        cases plans
    | ok plan =>
      rw [first] at plans
      obtain ⟨plan', second, plain⟩ := Except.eq_ok_of_map_eq_ok plans.symm
      have id : plan'.id = plan.id :=
        show plan'.plain.id = plan.plain.id from congrArg RecipePlan.id plain
      have shown : plan.shown = plan'.shown := by
        rw [← plan.shown_plain, ← plan'.shown_plain, plain]
      rw [second]
      refine ⟨rfl, ?_⟩
      simp only [RecipePlan.carryOut_eq, id]
      refine shows.putRecipe (plan.extendedBy_finished left.lists)
        (plan'.extendedBy_finished right.lists) _ (plan.made_finished left.lists)
        (plan'.made_finished right.lists) ?_
      rw [plan.view_finished, plan'.view_finished, shown]

end Recipes

/-! ## Whole injections -/

namespace Engine

variable {first second : Engine} {left right : Tables}

/-- Over tables that show the same, engines with the same content pass over their items alike. -/
theorem itemPass_alike (same : first.SameContent second) (shows : left.ShowsAs right) :
    (first.itemPass left).state.tables.ShowsAs (second.itemPass right).state.tables ∧
      (first.itemPass left).report = (second.itemPass right).report := by
  have entries : first.items.entries.map Entry.forget = second.items.entries.map Entry.forget :=
    congrArg Registry.entries same.items
  obtain ⟨state, report⟩ := runPass_forget (itemStep_forget first.ids) first.items.entries
    ⟨left, first.marks⟩
  obtain ⟨state', report'⟩ := runPass_forget (itemStep_forget second.ids) second.items.entries
    ⟨right, second.marks⟩
  rw [itemPass, itemPass, ← state, ← state', ← report, ← report', entries, same.ids]
  exact runPass_alike (fun entry _ _ _ shows => itemStep_alike second.ids entry shows) shows

/-- Over tables that show the same, engines with the same content pass over their recipes alike. -/
theorem recipePass_alike (same : first.SameContent second) (shows : left.ShowsAs right) :
    (first.recipePass left).state.ShowsAs (second.recipePass right).state ∧
      (first.recipePass left).report = (second.recipePass right).report := by
  have entries : first.recipes.entries.map Entry.forget =
      second.recipes.entries.map Entry.forget := congrArg Registry.entries same.recipes
  obtain ⟨state, report⟩ := runPass_forget (recipeStep_forget first.ids first.items)
    first.recipes.entries left
  obtain ⟨state', report'⟩ := runPass_forget (recipeStep_forget second.ids second.items)
    second.recipes.entries right
  rw [recipePass, recipePass, ← state, ← state', ← report, ← report', entries, same.ids,
    recipeStep_congr (Registry.resolveItem?_of_forget_eq same.items)]
  exact runPass_alike (fun entry _ _ _ shows => recipeStep_alike second.ids second.items entry
    shows) shows

/-- Over tables that show the same, engines with the same content inject alike. -/
theorem fullInjection_alike (same : first.SameContent second) (shows : left.ShowsAs right) :
    (first.fullInjection left).tables.ShowsAs (second.fullInjection right).tables ∧
      (first.fullInjection left).report = (second.fullInjection right).report := by
  obtain ⟨between, items⟩ := itemPass_alike same shows
  have started : (first.afterItems left).SameContent (second.afterItems right) := by
    have kept := sameContent_afterItems first left
    have kept' := sameContent_afterItems second right
    exact ⟨kept.ids.trans (same.ids.trans kept'.ids.symm),
      kept.items.trans (same.items.trans kept'.items.symm), same.recipes⟩
  obtain ⟨after, recipes⟩ := recipePass_alike started between
  refine ⟨after, ?_⟩
  rw [fullInjection, fullInjection]
  simp only [items, recipes]

end Engine

end Modpack
