import Modpack.Proofs.History
import Modpack.Proofs.Likeness
import Modpack.Proofs.Settled
import Modpack.Proofs.Templates

/-!
# A reloaded host is fully repaired

When the host has dropped and rebuilt its tables it says so, and the engine probes them. If the
probe finds something amiss the engine injects, and what it leaves is what an engine would leave
that was given the same packages and injected once into a seeded host. If the probe finds nothing
amiss, such an engine would not have put or patched anything either, provided the counters are in
range: with nothing from the bases on in the tables, the probe for the first number then misses
only registries without new records. A counter that has come round to zero gives the numbers of
templates, and the probe takes these for the records it looks for.
-/
namespace Modpack

/-! ## The probe over tables that show the same -/

/-- Over tables that show the same items a patch has the same left to write. -/
theorem Tables.patchWrites?_of_itemView {left right : Tables}
    (views : left.itemView = right.itemView) (item : ItemDefinition) :
    item.patchWrites? left.items = item.patchWrites? right.items := by
  rw [ItemDefinition.patchWrites?, ItemDefinition.patchWrites?, patchValues_of_itemView views]
  cases found : left.items.get? item.targetItemId with
  | none => rw [get?_none_of_itemView views found]
  | some record =>
    obtain ⟨record', found', same⟩ := get?_some_of_itemView views found
    rw [found', Option.map_some, Option.map_some, ItemRecord.lacks_of_view same]

namespace Engine

/-- Over tables that show the same, engines with the same content find the same amiss. -/
theorem needsInjection_alike {first second : Engine} {left right : Tables}
    (same : first.SameContent second) (shows : left.ShowsAs right) :
    first.needsInjection left = second.needsInjection right := by
  have items : left.items.contains = right.items.contains := by
    funext id
    exact Tables.contains_of_itemView shows.items id
  have recipes : left.recipes.contains = right.recipes.contains := by
    funext id
    exact Tables.contains_of_recipeView shows.recipes id
  have patches : patchesOutdated second.items left.items =
      patchesOutdated second.items right.items := by
    rw [patchesOutdated, patchesOutdated]
    simp only [Tables.patchWrites?_of_itemView shows.items]
  rw [needsInjection_of_sameContent same, needsInjection, needsInjection, items, recipes, patches]

/-- Where the counters are in range, the tables have nothing from the bases on and the engine finds
nothing amiss, the tables are settled. -/
theorem settled_of_fine {engine : Engine} {tables : Tables} {known : ItemDefinition → Prop}
    (sound : engine.Sound known) (inRange : engine.InRange)
    (items : ∀ id, engine.ids.itemBase ≤ id → tables.items.contains id = false)
    (recipes : ∀ id, engine.ids.recipeBase ≤ id → tables.recipes.contains id = false)
    (fine : engine.needsInjection tables = false) : engine.Settled tables := by
  rw [← sound.itemBase] at items
  rw [← sound.recipeBase] at recipes
  rw [needsInjection, Bool.or_eq_false_iff, Bool.or_eq_false_iff] at fine
  obtain ⟨⟨fineItems, fineRecipes⟩, finePatches⟩ := fine
  refine ⟨(patchesOutdated_eq_false_iff engine.items tables.items).1 finePatches, ?_, ?_⟩
  · intro entry member makes
    rw [sound.items.isPatch_of_needsInjection inRange.items items fineItems entry member] at makes
    cases makes
  · -- Recipes never patch, so there are none.
    intro entry member
    have patches :=
      sound.recipes.isPatch_of_needsInjection inRange.recipes recipes fineRecipes entry member
    cases patches

/-- After a session was loaded the engine injects when it finds something amiss. -/
theorem onAction_of_needs {engine : Engine} {host : Host}
    (needs : engine.needsInjection host.tables = true)
    (itemsReady : host.tables.items.isReady = true)
    (recipesReady : host.tables.recipes.isReady = true) :
    (engine.onAction .sessionLoaded host).host.tables =
        (engine.fullInjection host.tables).tables ∧
      (engine.onAction .sessionLoaded host).reinjected =
        some (engine.fullInjection host.tables).report := by
  have runs : ¬(engine.injected = true ∧ engine.needsInjection host.tables = false) := by
    rw [needs]
    exact fun both => Bool.noConfusion both.2
  have reload : Notification.sessionLoaded.isSessionReload = true := rfl
  rw [onAction, if_pos reload, if_pos needs]
  simp only [injectContent_of_ready runs itemsReady recipesReady, and_self]

/-- After a session was loaded the engine does nothing when it finds nothing amiss. -/
theorem onAction_of_fine {engine : Engine} {host : Host}
    (fine : engine.needsInjection host.tables = false) :
    (engine.onAction .sessionLoaded host).host = host ∧
      (engine.onAction .sessionLoaded host).reinjected = none := by
  have reload : Notification.sessionLoaded.isSessionReload = true := rfl
  rw [onAction, if_pos reload, fine]
  exact ⟨rfl, rfl⟩

end Engine

/-! ## The repair -/

/-- An engine that was given packages and injects into a seeded host runs both passes. -/
theorem Engine.injectContent_of_discovered (ids : IdRanges) (packages : List Package) :
    ((Engine.empty ids).discover packages).engine.injectContent Host.seeded.tables =
      ((Engine.empty ids).registerAll packages).fullInjection Host.seeded.tables := by
  rw [discover_engine]
  refine injectContent_of_ready ?_ rfl rfl
  rw [((Engine.empty ids).registerAll_frame packages).2.2]
  exact fun both => Bool.noConfusion both.1

/-- Reloaded tables show what seeded ones show. -/
theorem Tables.reload_showsAs (tables : Tables) : tables.reload.ShowsAs Host.seeded.tables :=
  ⟨tables.reload_atop.itemView, tables.reload_atop.recipeView, tables.reload_grounded,
    seeded_grounded⟩

/-- A package with one new item and one patch. -/
def larder : Package :=
  { info := .inMemory "larder"
    items := [{ id := "stew" }, { id := "salt", isModify := true, targetItemId := 2, price := 7 }]
    recipes := [{ id := "stew", result := .name "stew" }] }

/-- A history in which the host takes out what was injected and rebuilds its tables. -/
def larderEvents : List Event :=
  [.call (.register larder), .call .inject, .removeItem 60000, .reload, .call .resolveIcons]

/-- A history at the end of the numbers: the first item gets the largest one and the second one
zero; the first is registered again and gets the number of a template. -/
def atticEvents : List Event :=
  [.call (.register { info := .inMemory "attic", items := [{ id := "trunk" }, { id := "lamp" }] }),
    .call (.register { info := .inMemory "attic", items := [{ id := "trunk" }] })]

/-- Where numbers begin in this history. -/
def atticIds : IdRanges := { itemBase := 4294967295 }

end Modpack
