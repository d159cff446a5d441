import Modpack.Host.Record

/-!
# Item records

An item of the host. Its plain fields are read with `get?` and written with `set`, each by the
field's name in the host; its three nested lists are handles into the store of lists. A write
that is accepted changes one field, and one that is refused changes nothing.
-/
namespace Modpack

/-- The shape an item record has in the host. -/
inductive ItemVariant where
  | consumable
  | scrap
  | gear
  | weapon
  | bag
  | other
deriving DecidableEq, Repr

namespace ItemVariant

/-- The name of a shape. -/
def name : ItemVariant → String
  | consumable => "consumable"
  | scrap => "scrap"
  | gear => "gear"
  | weapon => "weapon"
  | bag => "bag"
  | other => "other"

/-- The shape of a name; a name that is not known means some other shape. -/
def ofName (name : String) : ItemVariant :=
  ([consumable, scrap, gear, weapon, bag].find? fun variant => variant.name == name).getD other

end ItemVariant

/-- A plain field of an item record. -/
inductive ItemField where
  | id
  | titleKey
  | descriptionKey
  | price
  | weight
  | rareColor
  | sellable
  | notForFire
  | soundType
  | fireRate
  | stockable
  | stockCount
  | icon
  | category
  | warmResistance
  | wetResistance
  | durabilityResistance
  | attack
  | defense
  | criticalChance
  | maxDurability
  | actualDurability
  | capacity
deriving DecidableEq, Repr

namespace ItemField

/-- Every field. -/
def all : List ItemField :=
  [id, titleKey, descriptionKey, price, weight, rareColor, sellable, notForFire, soundType,
    fireRate, stockable, stockCount, icon, category, warmResistance, wetResistance,
    durabilityResistance, attack, defense, criticalChance, maxDurability, actualDurability,
    capacity]

/-- The name of a field. -/
def name : ItemField → String
  | id => "id"
  | titleKey => "title_key"
  | descriptionKey => "description_key"
  | price => "price"
  | weight => "weight"
  | rareColor => "rare_color"
  | sellable => "sellable"
  | notForFire => "not_for_fire"
  | soundType => "sound_type"
  | fireRate => "fire_rate"
  | stockable => "stockable"
  | stockCount => "stock_count"
  | icon => "icon"
  | category => "category"
  | warmResistance => "warm_resistance"
  | wetResistance => "wet_resistance"
  | durabilityResistance => "durability_resistance"
  | attack => "attack"
  | defense => "defense"
  | criticalChance => "critical_chance"
  | maxDurability => "max_durability"
  | actualDurability => "actual_durability"
  | capacity => "capacity"

/-- The field of a name. -/
def ofName? (name : String) : Option ItemField :=
  all.find? fun field => field.name == name

/-- Every field is listed. -/
theorem mem_all (field : ItemField) : field ∈ all := by
  cases field <;> decide

end ItemField

/-- A nested list of an item record. -/
inductive ItemList where
  | changes
  | buffChanges
  | parameterChanges
deriving DecidableEq, Repr

namespace ItemList

/-- The name of a list. -/
def name : ItemList → String
  | changes => "changes"
  | buffChanges => "buff_changes"
  | parameterChanges => "parameter_changes"

/-- The list of a name. -/
def ofName? (name : String) : Option ItemList :=
  [changes, buffChanges, parameterChanges].find? fun list => list.name == name

end ItemList

/-- An item of the host. -/
structure ItemRecord where
  /-- The id the record carries. -/
  id : Nat
  /-- Its shape, which never changes. -/
  variant : ItemVariant
  /-- The key of its title among the host's strings. -/
  titleKey : Nat
  /-- The key of its description among the host's strings. -/
  descriptionKey : Nat
  /-- The price. -/
  price : Int
  /-- The weight. -/
  weight : Float
  /-- The color that marks a rare item. -/
  rareColor : Int
  /-- Whether it can be sold. -/
  sellable : Bool
  /-- Whether it is kept from the fire. -/
  notForFire : Bool
  /-- The sound it makes. -/
  soundType : Int
  /-- The rate of fire. -/
  fireRate : Int
  /-- Whether traders may stock it. -/
  stockable : Bool
  /-- How many of it traders stock. -/
  stockCount : Int
  /-- Its picture, once it has one. -/
  icon : Option String
  /-- Where gear is worn. -/
  category : String
  /-- How well gear keeps warm. -/
  warmResistance : Int
  /-- How well gear keeps dry. -/
  wetResistance : Int
  /-- How slowly gear wears out. -/
  durabilityResistance : Int
  /-- The attack of a weapon. -/
  attack : Int
  /-- The defense of a weapon. -/
  defense : Int
  /-- The chance of a critical hit. -/
  criticalChance : Int
  /-- How long it lasts when new. -/
  maxDurability : Int
  /-- How long it lasts now. -/
  actualDurability : Int
  /-- How much a bag holds. -/
  capacity : Float
  /-- What using it changes. -/
  changes : ListHandle
  /-- What using it changes for a while. -/
  buffChanges : ListHandle
  /-- What wearing it changes. -/
  parameterChanges : ListHandle
deriving DecidableEq

namespace ItemRecord

/-- A new record and the store with its three lists, all empty. -/
def create (store : ListStore) (id : Nat) (variant : ItemVariant) : ItemRecord × ListStore :=
  let first := store
  let second := first.fresh []
  let third := second.fresh []
  ({ id, variant, titleKey := id, descriptionKey := id, price := 10, weight := 0.5
     rareColor := 0, sellable := true, notForFire := false, soundType := 0, fireRate := 0
     stockable := true, stockCount := 1, icon := none, category := "", warmResistance := 0
     wetResistance := 0, durabilityResistance := 100, attack := 0, defense := 0
     criticalChance := 0, maxDurability := 100, actualDurability := 100, capacity := 0.0
     changes := first.next, buffChanges := second.next, parameterChanges := third.next },
    third.fresh [])

/-- The value of a field; the icon has none until it is set. -/
def get? (record : ItemRecord) : ItemField → Option FieldValue
  | .id => some (.id record.id)
  | .titleKey => some (.int record.titleKey)
  | .descriptionKey => some (.int record.descriptionKey)
  | .price => some (.int record.price)
  | .weight => some (.float record.weight)
  | .rareColor => some (.int record.rareColor)
  | .sellable => some (.bool record.sellable)
  | .notForFire => some (.bool record.notForFire)
  | .soundType => some (.int record.soundType)
  | .fireRate => some (.int record.fireRate)
  | .stockable => some (.bool record.stockable)
  | .stockCount => some (.int record.stockCount)
  | .icon => record.icon.map .asset
  | .category => some (.text record.category)
  | .warmResistance => some (.int record.warmResistance)
  | .wetResistance => some (.int record.wetResistance)
  | .durabilityResistance => some (.int record.durabilityResistance)
  | .attack => some (.int record.attack)
  | .defense => some (.int record.defense)
  | .criticalChance => some (.int record.criticalChance)
  | .maxDurability => some (.int record.maxDurability)
  | .actualDurability => some (.int record.actualDurability)
  | .capacity => some (.float record.capacity)

/-- Write a field. The string keys keep the last 32 bits of what is written. -/
def set (record : ItemRecord) (field : ItemField) (value : FieldValue) :
    Except HostError ItemRecord :=
  match field with
  | .id => (value.toId field.name).map fun content => { record with id := content }
  | .titleKey => (value.toInt field.name).map fun number =>
    { record with titleKey := FieldValue.narrow number }
  | .descriptionKey => (value.toInt field.name).map fun number =>
    { record with descriptionKey := FieldValue.narrow number }
  | .price => (value.toInt field.name).map fun content => { record with price := content }
  | .weight => (value.toFloat field.name).map fun content => { record with weight := content }
  | .rareColor => (value.toInt field.name).map fun content => { record with rareColor := content }
  | .sellable => (value.toBool field.name).map fun content => { record with sellable := content }
  | .notForFire => (value.toBool field.name).map fun content =>
    { record with notForFire := content }
  | .soundType => (value.toInt field.name).map fun content => { record with soundType := content }
  | .fireRate => (value.toInt field.name).map fun content => { record with fireRate := content }
  | .stockable => (value.toBool field.name).map fun content =>
    { record with stockable := content }
  | .stockCount => (value.toInt field.name).map fun content =>
    { record with stockCount := content }
  | .icon => (value.toAsset field.name).map fun path => { record with icon := some path }
  | .category => (value.toText field.name).map fun content => { record with category := content }
  | .warmResistance => (value.toInt field.name).map fun content =>
    { record with warmResistance := content }
  | .wetResistance => (value.toInt field.name).map fun content =>
    { record with wetResistance := content }
  | .durabilityResistance => (value.toInt field.name).map fun content =>
    { record with durabilityResistance := content }
  | .attack => (value.toInt field.name).map fun content => { record with attack := content }
  | .defense => (value.toInt field.name).map fun content => { record with defense := content }
  | .criticalChance => (value.toInt field.name).map fun content =>
    { record with criticalChance := content }
  | .maxDurability => (value.toInt field.name).map fun content =>
    { record with maxDurability := content }
  | .actualDurability => (value.toInt field.name).map fun content =>
    { record with actualDurability := content }
  | .capacity => (value.toFloat field.name).map fun content => { record with capacity := content }

/-- Write several fields in order, up to the first that is refused. -/
def setAll (record : ItemRecord) (writes : List (ItemField × FieldValue)) :
    Except HostError ItemRecord :=
  writes.foldlM (fun record write => record.set write.1 write.2) record

/-- The handle of a nested list. -/
def handle (record : ItemRecord) : ItemList → ListHandle
  | .changes => record.changes
  | .buffChanges => record.buffChanges
  | .parameterChanges => record.parameterChanges

/-- Put another list in the place of a nested one. -/
def setHandle (record : ItemRecord) (list : ItemList) (handle : ListHandle) : ItemRecord :=
  match list with
  | .changes => { record with changes := handle }
  | .buffChanges => { record with buffChanges := handle }
  | .parameterChanges => { record with parameterChanges := handle }

/-- The record with a fresh empty list in the place of a nested one, and the store with it. -/
def detach (record : ItemRecord) (store : ListStore) (list : ItemList) :
    ItemRecord × ListStore :=
  (record.setHandle list store.next, store.fresh [])

/-- The value of the field of a name, if there is such a field and it has a value. -/
def getNamed? (record : ItemRecord) (name : String) : Option FieldValue :=
  (ItemField.ofName? name).bind fun field => record.get? field

/-- Write the field of a name. -/
def setNamed (record : ItemRecord) (name : String) (value : FieldValue) :
    Except HostError ItemRecord :=
  match ItemField.ofName? name with
  | some field => record.set field value
  | none => .error (.unknownField name)

/-- The nested list of a name. -/
def listNamed (name : String) : Except HostError ItemList :=
  match ItemList.ofName? name with
  | some list => .ok list
  | none => .error (.unknownList name)

/-- The handle of the nested list of a name. -/
def handleNamed (record : ItemRecord) (name : String) : Except HostError ListHandle :=
  (listNamed name).map record.handle

/-- A fresh empty list in the place of the nested list of a name. -/
def detachNamed (record : ItemRecord) (store : ListStore) (name : String) :
    Except HostError (ItemRecord × ListStore) :=
  (listNamed name).map (record.detach store)

instance : HostRecord ItemRecord := ⟨getNamed?, setNamed, handleNamed, detachNamed⟩

end ItemRecord

end Modpack
