import Modpack.Host
import Modpack.Proofs.ListStores
import Modpack.Proofs.Records
import Modpack.Proofs.Tables

/-!
# What tables show

A record shows its plain part and the content of its nested lists; which handles it has for them
does not show. Tables are grounded when every handle in them is of a list that was made, which
holds of every host: a record cannot come by any other handle. When a record is put into grounded
tables together with a store that extends theirs, what the tables show changes under its id only.
-/
namespace Modpack

/-! ## Records -/

/-- What an item record shows. -/
structure ItemView where
  /-- Its plain part. -/
  plain : ItemRecord
  /-- The content of each nested list. -/
  contents : ItemList → List ListEntry

/-- What a recipe record shows. -/
structure RecipeView where
  /-- Its plain part. -/
  plain : RecipeRecord
  /-- The content of each nested list. -/
  contents : RecipeList → List ListEntry

namespace ItemRecord

/-- What an item record shows whose lists are in a store. -/
def view (record : ItemRecord) (store : ListStore) : ItemView :=
  ⟨record.plain, fun list => store.read (record.handle list)⟩

/-- A record shows the same in a store that extends the one its lists were made in. -/
theorem view_of_extendedBy {record : ItemRecord} {before after : ListStore}
    (extended : before.ExtendedBy after) (made : ∀ list, before.Made (record.handle list)) :
    record.view after = record.view before := by
  have contents : (fun list => after.read (record.handle list)) =
      fun list => before.read (record.handle list) := by
    funext list
    exact (extended _ (made list)).2
  rw [view, view, contents]

/-- Records that show the same accept the same writes and show the same afterwards. -/
theorem view_setAll {left right written : ItemRecord} {store other : ListStore}
    (views : left.view store = right.view other) {writes : List (ItemField × FieldValue)}
    (accepted : left.setAll writes = .ok written) :
    ∃ written', right.setAll writes = .ok written' ∧
      written.view store = written'.view other := by
  have plain : left.plain = right.plain := congrArg ItemView.plain views
  have both : (right.setAll writes).map ItemRecord.plain = .ok written.plain := by
    rw [← setAll_plain, ← plain, setAll_plain, accepted]
    rfl
  obtain ⟨written', accepted', plain'⟩ := Except.eq_ok_of_map_eq_ok both
  refine ⟨written', accepted', ?_⟩
  have handles := (setAll_frame accepted).2.1
  have handles' := (setAll_frame accepted').2.1
  have contents : (fun list => store.read (written.handle list)) =
      fun list => other.read (written'.handle list) := by
    funext list
    rw [handles, handles']
    exact congrFun (congrArg ItemView.contents views) list
  rw [view, view, contents, plain']

end ItemRecord

namespace RecipeRecord

/-- What a recipe record shows whose lists are in a store. -/
def view (record : RecipeRecord) (store : ListStore) : RecipeView :=
  ⟨record.plain, fun list => store.read (record.handle list)⟩

/-- A record shows the same in a store that extends the one its lists were made in. -/
theorem view_of_extendedBy {record : RecipeRecord} {before after : ListStore}
    (extended : before.ExtendedBy after) (made : ∀ list, before.Made (record.handle list)) :
    record.view after = record.view before := by
  have contents : (fun list => after.read (record.handle list)) =
      fun list => before.read (record.handle list) := by
    funext list
    exact (extended _ (made list)).2
  rw [view, view, contents]

end RecipeRecord

/-! ## Tables -/

namespace Tables

/-- Every handle of a record is of a list that was made. -/
structure Grounded (tables : Tables) : Prop where
  /-- The handles of item records. -/
  items : ∀ id record, tables.items.get? id = some record →
    ∀ list, tables.lists.Made (record.handle list)
  /-- The handles of recipe records. -/
  recipes : ∀ id record, tables.recipes.get? id = some record →
    ∀ list, tables.lists.Made (record.handle list)

/-- Writing fields of a record in grounded tables keeps its handles to lists that were made. -/
theorem Grounded.made_of_setAll {tables : Tables} (grounded : tables.Grounded) {id : Nat}
    {record written : ItemRecord} (found : tables.items.get? id = some record)
    {writes : List (ItemField × FieldValue)} (accepted : record.setAll writes = .ok written)
    (list : ItemList) : tables.lists.Made (written.handle list) := by
  rw [(ItemRecord.setAll_frame accepted).2.1]
  exact grounded.items id record found list

/-- Tables are grounded when the handles of all their entries are of lists that were made. -/
theorem grounded_iff (tables : Tables) :
    tables.Grounded ↔
      (∀ entry ∈ tables.items.records.entries,
        ∀ list ∈ [ItemList.changes, .buffChanges, .parameterChanges],
          (entry.2.handle list).index < tables.lists.contents.length) ∧
      ∀ entry ∈ tables.recipes.records.entries,
        ∀ list ∈ [RecipeList.requirePrimary, .requireSecondary],
          (entry.2.handle list).index < tables.lists.contents.length := by
  constructor
  · intro grounded
    constructor
    · intro entry member list _
      exact grounded.items entry.1 entry.2 ((IdMap.mem_entries_iff _ _ _).1 member) list
    · intro entry member list _
      exact grounded.recipes entry.1 entry.2 ((IdMap.mem_entries_iff _ _ _).1 member) list
  · rintro ⟨items, recipes⟩
    constructor
    · intro id record found list
      exact items (id, record) ((IdMap.mem_entries_iff _ _ _).2 found) list (by cases list <;> simp)
    · intro id record found list
      exact recipes (id, record) ((IdMap.mem_entries_iff _ _ _).2 found) list
        (by cases list <;> simp)

instance (tables : Tables) : Decidable tables.Grounded :=
  decidable_of_iff _ tables.grounded_iff.symm

/-- What the item table shows. -/
def itemView (tables : Tables) : IdMap ItemView :=
  tables.items.records.map fun record => record.view tables.lists

/-- What the recipe table shows. -/
def recipeView (tables : Tables) : IdMap RecipeView :=
  tables.recipes.records.map fun record => record.view tables.lists

/-- Put an item record into the table, with the lists and the strings that come with it. -/
def putItem (tables : Tables) (lists : ListStore) (strings : StringTable) (id : Nat)
    (record : ItemRecord) : Tables :=
  { tables with lists := lists, strings := strings, items := tables.items.set id record }

/-- Put a recipe record into the table, with the lists that come with it. -/
def putRecipe (tables : Tables) (lists : ListStore) (id : Nat) (record : RecipeRecord) :
    Tables :=
  { tables with lists := lists, recipes := tables.recipes.set id record }

/-- What the item table shows under an id is what its record shows. -/
theorem get?_itemView (tables : Tables) (id : Nat) :
    tables.itemView.get? id =
      (tables.items.get? id).map fun record => record.view tables.lists :=
  IdMap.get?_map _ tables.items.records id

/-- The item table shows something under the ids it has. -/
theorem contains_itemView (tables : Tables) (id : Nat) :
    tables.itemView.contains id = tables.items.contains id :=
  IdMap.contains_map _ tables.items.records id

/-- The recipe table shows something under the ids it has. -/
theorem contains_recipeView (tables : Tables) (id : Nat) :
    tables.recipeView.contains id = tables.recipes.contains id :=
  IdMap.contains_map _ tables.recipes.records id

section Put

variable {tables : Tables} {lists : ListStore}

/-- What grounded tables show does not change when their store is extended. -/
theorem Grounded.itemView_extended (grounded : tables.Grounded)
    (extended : tables.lists.ExtendedBy lists) :
    (tables.items.records.map fun record => record.view lists) = tables.itemView :=
  IdMap.map_congr fun id record found =>
    ItemRecord.view_of_extendedBy extended (grounded.items id record found)

/-- What grounded tables show does not change when their store is extended. -/
theorem Grounded.recipeView_extended (grounded : tables.Grounded)
    (extended : tables.lists.ExtendedBy lists) :
    (tables.recipes.records.map fun record => record.view lists) = tables.recipeView :=
  IdMap.map_congr fun id record found =>
    RecipeRecord.view_of_extendedBy extended (grounded.recipes id record found)

/-- Putting an item changes what the item table shows under its id only. -/
theorem Grounded.itemView_putItem (grounded : tables.Grounded)
    (extended : tables.lists.ExtendedBy lists) (strings : StringTable) (id : Nat)
    (record : ItemRecord) :
    (tables.putItem lists strings id record).itemView =
      tables.itemView.insert id (record.view lists) := by
  rw [← grounded.itemView_extended extended]
  exact IdMap.map_insert _ tables.items.records id record

/-- Putting an item does not change what the recipe table shows. -/
theorem Grounded.recipeView_putItem (grounded : tables.Grounded)
    (extended : tables.lists.ExtendedBy lists) (strings : StringTable) (id : Nat)
    (record : ItemRecord) :
    (tables.putItem lists strings id record).recipeView = tables.recipeView :=
  grounded.recipeView_extended extended

/-- Putting a recipe does not change what the item table shows. -/
theorem Grounded.itemView_putRecipe (grounded : tables.Grounded)
    (extended : tables.lists.ExtendedBy lists) (id : Nat) (record : RecipeRecord) :
    (tables.putRecipe lists id record).itemView = tables.itemView :=
  grounded.itemView_extended extended

/-- Putting a recipe changes what the recipe table shows under its id only. -/
theorem Grounded.recipeView_putRecipe (grounded : tables.Grounded)
    (extended : tables.lists.ExtendedBy lists) (id : Nat) (record : RecipeRecord) :
    (tables.putRecipe lists id record).recipeView =
      tables.recipeView.insert id (record.view lists) := by
  rw [← grounded.recipeView_extended extended]
  exact IdMap.map_insert _ tables.recipes.records id record

/-- Putting an item whose lists were made keeps the tables grounded. -/
theorem Grounded.putItem (grounded : tables.Grounded)
    (extended : tables.lists.ExtendedBy lists) (strings : StringTable) (id : Nat)
    {record : ItemRecord} (made : ∀ list, lists.Made (record.handle list)) :
    (tables.putItem lists strings id record).Grounded := by
  constructor
  · intro other held found list
    change (tables.items.set id record).get? other = some held at found
    rw [Table.get?_set] at found
    split at found
    · obtain rfl := Option.some.inj found
      exact made list
    · exact (extended _ (grounded.items other held found list)).1
  · intro other held found list
    exact (extended _ (grounded.recipes other held found list)).1

/-- Putting a recipe whose lists were made keeps the tables grounded. -/
theorem Grounded.putRecipe (grounded : tables.Grounded)
    (extended : tables.lists.ExtendedBy lists) (id : Nat)
    {record : RecipeRecord} (made : ∀ list, lists.Made (record.handle list)) :
    (tables.putRecipe lists id record).Grounded := by
  constructor
  · intro other held found list
    exact (extended _ (grounded.items other held found list)).1
  · intro other held found list
    change (tables.recipes.set id record).get? other = some held at found
    rw [Table.get?_set] at found
    split at found
    · obtain rfl := Option.some.inj found
      exact made list
    · exact (extended _ (grounded.recipes other held found list)).1

end Put

end Tables

end Modpack
