import Modpack.Proofs.Views

/-!
# The tables of a host that was reloaded

A host rebuilds its templates in the store it has, on top of every list that was ever made there.
The rebuilt tables are those of a seeded host moved up by that many lists, so they show the same.
-/
namespace Modpack

/-- The handle of a list once a number of other lists are below it. -/
def ListHandle.raise (handle : ListHandle) (below : Nat) : ListHandle :=
  ⟨below + handle.index⟩

/-- An item record whose lists were moved up by a number of others. -/
def ItemRecord.raise (record : ItemRecord) (below : Nat) : ItemRecord :=
  { record with
    changes := record.changes.raise below
    buffChanges := record.buffChanges.raise below
    parameterChanges := record.parameterChanges.raise below }

/-- A recipe record whose lists were moved up by a number of others. -/
def RecipeRecord.raise (record : RecipeRecord) (below : Nat) : RecipeRecord :=
  { record with
    requirePrimary := record.requirePrimary.raise below
    requireSecondary := record.requireSecondary.raise below }

/-- Moving a record up moves each of its handles. -/
theorem ItemRecord.handle_raise (record : ItemRecord) (below : Nat) (list : ItemList) :
    (record.raise below).handle list = (record.handle list).raise below := by
  cases list <;> rfl

/-- Moving a record up moves each of its handles. -/
theorem RecipeRecord.handle_raise (record : RecipeRecord) (below : Nat) (list : RecipeList) :
    (record.raise below).handle list = (record.handle list).raise below := by
  cases list <;> rfl

/-- A handle that was moved up reads above the lists below what it read before. -/
theorem ListStore.read_raise {store other : ListStore} {below : List (List ListEntry)}
    (atop : store.contents = below ++ other.contents) (handle : ListHandle) :
    store.read (handle.raise below.length) = other.read handle := by
  have found : store.contents[below.length + handle.index]? = other.contents[handle.index]? := by
    rw [atop, List.getElem?_append_right (Nat.le_add_right _ _), Nat.add_sub_cancel_left]
  rw [read, read, ListHandle.raise, found]

namespace Tables

/-- Tables are others moved up, on top of some lists. -/
structure Atop (below : List (List ListEntry)) (left right : Tables) : Prop where
  /-- The store has the lists of the other above the ones below. -/
  lists : left.lists.contents = below ++ right.lists.contents
  /-- The items are those of the other, moved up. -/
  items : left.items.records = right.items.records.map fun record => record.raise below.length
  /-- The recipes are those of the other, moved up. -/
  recipes : left.recipes.records =
    right.recipes.records.map fun record => record.raise below.length

section Atop

variable {below : List (List ListEntry)} {left right : Tables}

/-- Tables on top of lists show what they show without these. -/
theorem Atop.itemView (atop : Atop below left right) : left.itemView = right.itemView := by
  rw [Tables.itemView, Tables.itemView, atop.items, IdMap.map_map]
  refine IdMap.map_congr fun id record _ => ?_
  have contents : (fun list => left.lists.read ((record.raise below.length).handle list)) =
      fun list => right.lists.read (record.handle list) := by
    funext list
    rw [ItemRecord.handle_raise]
    exact ListStore.read_raise atop.lists (record.handle list)
  rw [ItemRecord.view, contents]
  rfl

/-- Tables on top of lists show what they show without these. -/
theorem Atop.recipeView (atop : Atop below left right) : left.recipeView = right.recipeView := by
  rw [Tables.recipeView, Tables.recipeView, atop.recipes, IdMap.map_map]
  refine IdMap.map_congr fun id record _ => ?_
  have contents : (fun list => left.lists.read ((record.raise below.length).handle list)) =
      fun list => right.lists.read (record.handle list) := by
    funext list
    rw [RecipeRecord.handle_raise]
    exact ListStore.read_raise atop.lists (record.handle list)
  rw [RecipeRecord.view, contents]
  rfl

/-- Grounded tables are so on top of lists. -/
theorem Atop.grounded (atop : Atop below left right) (grounded : right.Grounded) :
    left.Grounded := by
  have made {handle : ListHandle} (made : right.lists.Made handle) :
      left.lists.Made (handle.raise below.length) := by
    simp only [ListStore.Made, ListHandle.raise, atop.lists, List.length_append] at made ⊢
    omega
  constructor
  · intro id record found list
    rw [Table.get?, atop.items, IdMap.get?_map] at found
    obtain ⟨old, foundOld, rfl⟩ := Option.map_eq_some_iff.1 found
    rw [ItemRecord.handle_raise]
    exact made (grounded.items id old foundOld list)
  · intro id record found list
    rw [Table.get?, atop.recipes, IdMap.get?_map] at found
    obtain ⟨old, foundOld, rfl⟩ := Option.map_eq_some_iff.1 found
    rw [RecipeRecord.handle_raise]
    exact made (grounded.recipes id old foundOld list)

/-- Adding an item commutes with moving up, if what is changed about it does. -/
theorem Atop.addItem (atop : Atop below left right) (id : Nat) (variant : ItemVariant)
    {change : ItemRecord → ItemRecord}
    (moves : ∀ record by', change (record.raise by') = (change record).raise by') :
    Atop below (left.addItem id variant change) (right.addItem id variant change) := by
  have record : (ItemRecord.create left.lists id variant).1 =
      (ItemRecord.create right.lists id variant).1.raise below.length := by
    simp only [ItemRecord.create, ItemRecord.raise, ListHandle.raise, ListStore.next,
      ListStore.fresh, atop.lists, List.length_append, List.length_cons, List.length_nil,
      Nat.add_assoc]
  refine ⟨?_, ?_, atop.recipes⟩
  · simp only [Tables.addItem, ItemRecord.create, ListStore.fresh, atop.lists, List.append_assoc]
  · change left.items.records.insert id (change (ItemRecord.create left.lists id variant).1) = _
    rw [record, moves, atop.items, ← IdMap.map_insert]
    rfl

/-- Adding a recipe commutes with moving up. -/
theorem Atop.addRecipe (atop : Atop below left right) (id : Nat) (kind : String) :
    Atop below (left.addRecipe id kind) (right.addRecipe id kind) := by
  have record : (RecipeRecord.create left.lists id kind).1 =
      (RecipeRecord.create right.lists id kind).1.raise below.length := by
    simp only [RecipeRecord.create, RecipeRecord.raise, ListHandle.raise, ListStore.next,
      ListStore.fresh, atop.lists, List.length_append, List.length_cons, List.length_nil,
      Nat.add_assoc]
  refine ⟨?_, atop.items, ?_⟩
  · simp only [Tables.addRecipe, RecipeRecord.create, ListStore.fresh, atop.lists,
      List.append_assoc]
  · change left.recipes.records.insert id (RecipeRecord.create left.lists id kind).1 = _
    rw [record, atop.recipes, ← IdMap.map_insert]
    rfl

/-- Pushing into a list commutes with moving it up. -/
theorem push_raise (atop : left.lists.contents = below ++ right.lists.contents)
    (handle : ListHandle) (entry : ListEntry) :
    (left.lists.push (handle.raise below.length) entry).contents =
      below ++ (right.lists.push handle entry).contents := by
  rw [ListStore.push, ListStore.push, ListHandle.raise, atop]
  exact List.modifyTailIdx_add _ handle.index below right.lists.contents

/-- Pushing into a list of an item commutes with moving up. -/
theorem Atop.pushToItem (atop : Atop below left right) (id : Nat) (list : ItemList)
    (entry : ListEntry) :
    Atop below (left.pushToItem id list entry) (right.pushToItem id list entry) := by
  have found : left.items.get? id =
      (right.items.get? id).map fun record => record.raise below.length := by
    rw [Table.get?, atop.items, IdMap.get?_map]
    rfl
  rw [Tables.pushToItem, Tables.pushToItem, found]
  cases right.items.get? id with
  | none => exact atop
  | some record =>
    refine ⟨?_, atop.items, atop.recipes⟩
    simp only [Option.map_some, ItemRecord.handle_raise]
    exact push_raise atop.lists (record.handle list) entry

/-- Pushing into a list of a recipe commutes with moving up. -/
theorem Atop.pushToRecipe (atop : Atop below left right) (id : Nat) (list : RecipeList)
    (entry : ListEntry) :
    Atop below (left.pushToRecipe id list entry) (right.pushToRecipe id list entry) := by
  have found : left.recipes.get? id =
      (right.recipes.get? id).map fun record => record.raise below.length := by
    rw [Table.get?, atop.recipes, IdMap.get?_map]
    rfl
  rw [Tables.pushToRecipe, Tables.pushToRecipe, found]
  cases right.recipes.get? id with
  | none => exact atop
  | some record =>
    refine ⟨?_, atop.items, atop.recipes⟩
    simp only [Option.map_some, RecipeRecord.handle_raise]
    exact push_raise atop.lists (record.handle list) entry

/-- Putting the templates in commutes with moving up. -/
theorem Atop.withTemplates (atop : Atop below left right) :
    Atop below left.withTemplates right.withTemplates := by
  simp only [Tables.withTemplates]
  refine .pushToRecipe (.addRecipe ?_ 100 _) 100 .requirePrimary _
  refine .addItem (.addItem (.addItem ?_ 3 .weapon ?_) 4 .bag ?_) 5 .scrap ?_
  · refine .pushToItem (.addItem (.pushToItem (.addItem atop 1 .consumable ?_) 1 .changes _)
      2 .gear ?_) 2 .parameterChanges _
    · exact fun _ _ => rfl
    · exact fun _ _ => rfl
  · exact fun _ _ => rfl
  · exact fun _ _ => rfl
  · exact fun _ _ => rfl

end Atop

/-- The tables of a reloaded host are those of a seeded one, on top of all its lists. -/
theorem reload_atop (tables : Tables) :
    Atop tables.lists.contents tables.reload Host.seeded.tables := by
  have cleared : Atop tables.lists.contents
      { tables with items := tables.items.clear, recipes := tables.recipes.clear } .empty :=
    ⟨(List.append_nil _).symm, rfl, rfl⟩
  exact cleared.withTemplates

/-- Adding to a list of an item leaves the strings alone. -/
theorem pushToItem_strings (tables : Tables) (id : Nat) (list : ItemList) (entry : ListEntry) :
    (tables.pushToItem id list entry).strings = tables.strings := by
  rw [pushToItem]
  split <;> rfl

/-- Adding to a list of a recipe leaves the strings alone. -/
theorem pushToRecipe_strings (tables : Tables) (id : Nat) (list : RecipeList)
    (entry : ListEntry) : (tables.pushToRecipe id list entry).strings = tables.strings := by
  rw [pushToRecipe]
  split <;> rfl

/-- Strings outlive a reload. -/
theorem reload_strings (tables : Tables) : tables.reload.strings = tables.strings := by
  rw [reload, withTemplates]
  simp only [pushToItem_strings, pushToRecipe_strings, addItem, addRecipe]

/-- The templates of a seeded host are grounded. -/
theorem seeded_grounded : Host.seeded.tables.Grounded := by decide

/-- The tables of a reloaded host are grounded. -/
theorem reload_grounded (tables : Tables) : tables.reload.Grounded :=
  tables.reload_atop.grounded seeded_grounded

end Tables

end Modpack
