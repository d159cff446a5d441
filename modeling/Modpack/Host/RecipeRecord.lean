import Modpack.Host.Record

/-!
# Recipe records

A recipe of the host: plain fields read and written by name, and two nested lists of what it
takes, held as handles into the store of lists. Only recipes of the item kind make an item.
-/
namespace Modpack

/-- A plain field of a recipe record. -/
inductive RecipeField where
  | id
  | kind
  | index
  | requiredSkill
  | active
  | difficulty
  | title
  | resultItem
  | resultCount
  | bench
deriving DecidableEq, Repr

namespace RecipeField

/-- Every field. -/
def all : List RecipeField :=
  [id, kind, index, requiredSkill, active, difficulty, title, resultItem, resultCount, bench]

/-- The name of a field. -/
def name : RecipeField → String
  | id => "id"
  | kind => "kind"
  | index => "index"
  | requiredSkill => "required_skill"
  | active => "active"
  | difficulty => "difficulty"
  | title => "title"
  | resultItem => "result_item"
  | resultCount => "result_count"
  | bench => "bench"

/-- The field of a name. -/
def ofName? (name : String) : Option RecipeField :=
  all.find? fun field => field.name == name

/-- Every field is listed. -/
theorem mem_all (field : RecipeField) : field ∈ all := by
  cases field <;> decide

end RecipeField

/-- A nested list of a recipe record. -/
inductive RecipeList where
  | requirePrimary
  | requireSecondary
deriving DecidableEq, Repr

namespace RecipeList

/-- The name of a list. -/
def name : RecipeList → String
  | requirePrimary => "require_primary"
  | requireSecondary => "require_secondary"

/-- The list of a name. -/
def ofName? (name : String) : Option RecipeList :=
  [requirePrimary, requireSecondary].find? fun list => list.name == name

end RecipeList

/-- A recipe of the host. -/
structure RecipeRecord where
  /-- The id the record carries. -/
  id : Nat
  /-- What the recipe makes. -/
  kind : String
  /-- Its place in the list of recipes. -/
  index : Int
  /-- The skill it takes. -/
  requiredSkill : Int
  /-- Whether it can be used. -/
  active : Bool
  /-- How hard it is. -/
  difficulty : Int
  /-- Its title. -/
  title : String
  /-- The item it makes. -/
  resultItem : Nat
  /-- How many it makes. -/
  resultCount : Int
  /-- The station it needs. -/
  bench : String
  /-- What it takes. -/
  requirePrimary : ListHandle
  /-- What it may take in addition. -/
  requireSecondary : ListHandle
deriving DecidableEq

namespace RecipeRecord

/-- The kind of recipes that make an item. -/
def itemKind : String := "item"

/-- A new record and the store with its two lists, both empty. -/
def create (store : ListStore) (id : Nat) (kind : String) : RecipeRecord × ListStore :=
  let first := store
  let second := first.fresh []
  ({ id, kind, index := 0, requiredSkill := 0, active := true, difficulty := 1, title := ""
     resultItem := 0, resultCount := 1, bench := "nothing"
     requirePrimary := first.next, requireSecondary := second.next },
    second.fresh [])

/-- Whether the recipe makes an item. -/
def isItemRecipe (record : RecipeRecord) : Bool :=
  record.kind == itemKind

/-- The value of a field. -/
def get (record : RecipeRecord) : RecipeField → FieldValue
  | .id => .id record.id
  | .kind => .text record.kind
  | .index => .int record.index
  | .requiredSkill => .int record.requiredSkill
  | .active => .bool record.active
  | .difficulty => .int record.difficulty
  | .title => .text record.title
  | .resultItem => .id record.resultItem
  | .resultCount => .int record.resultCount
  | .bench => .text record.bench

/-- Write a field. -/
def set (record : RecipeRecord) (field : RecipeField) (value : FieldValue) :
    Except HostError RecipeRecord :=
  match field with
  | .id => (value.toId field.name).map fun content => { record with id := content }
  | .kind => (value.toText field.name).map fun content => { record with kind := content }
  | .index => (value.toInt field.name).map fun content => { record with index := content }
  | .requiredSkill => (value.toInt field.name).map fun content =>
    { record with requiredSkill := content }
  | .active => (value.toBool field.name).map fun content => { record with active := content }
  | .difficulty => (value.toInt field.name).map fun content =>
    { record with difficulty := content }
  | .title => (value.toText field.name).map fun content => { record with title := content }
  | .resultItem => (value.toId field.name).map fun content =>
    { record with resultItem := content }
  | .resultCount => (value.toInt field.name).map fun content =>
    { record with resultCount := content }
  | .bench => (value.toText field.name).map fun content => { record with bench := content }

/-- Write several fields in order, up to the first that is refused. -/
def setAll (record : RecipeRecord) (writes : List (RecipeField × FieldValue)) :
    Except HostError RecipeRecord :=
  writes.foldlM (fun record write => record.set write.1 write.2) record

/-- The handle of a nested list. -/
def handle (record : RecipeRecord) : RecipeList → ListHandle
  | .requirePrimary => record.requirePrimary
  | .requireSecondary => record.requireSecondary

/-- Put another list in the place of a nested one. -/
def setHandle (record : RecipeRecord) (list : RecipeList) (handle : ListHandle) : RecipeRecord :=
  match list with
  | .requirePrimary => { record with requirePrimary := handle }
  | .requireSecondary => { record with requireSecondary := handle }

/-- The record with a fresh empty list in the place of a nested one, and the store with it. -/
def detach (record : RecipeRecord) (store : ListStore) (list : RecipeList) :
    RecipeRecord × ListStore :=
  (record.setHandle list store.next, store.fresh [])

/-- The value of the field of a name, if there is such a field and it has a value. -/
def getNamed? (record : RecipeRecord) (name : String) : Option FieldValue :=
  (RecipeField.ofName? name).bind fun field => some (record.get field)

/-- Write the field of a name. -/
def setNamed (record : RecipeRecord) (name : String) (value : FieldValue) :
    Except HostError RecipeRecord :=
  match RecipeField.ofName? name with
  | some field => record.set field value
  | none => .error (.unknownField name)

/-- The nested list of a name. -/
def listNamed (name : String) : Except HostError RecipeList :=
  match RecipeList.ofName? name with
  | some list => .ok list
  | none => .error (.unknownList name)

/-- The handle of the nested list of a name. -/
def handleNamed (record : RecipeRecord) (name : String) : Except HostError ListHandle :=
  (listNamed name).map record.handle

/-- A fresh empty list in the place of the nested list of a name. -/
def detachNamed (record : RecipeRecord) (store : ListStore) (name : String) :
    Except HostError (RecipeRecord × ListStore) :=
  (listNamed name).map (record.detach store)

instance : HostRecord RecipeRecord := ⟨getNamed?, setNamed, handleNamed, detachNamed⟩

end RecipeRecord

end Modpack
