import Modpack.Document.Fields
import Modpack.Number.Shortest
import Modpack.Text.Lower

/-!
# Item definitions

What a package says about an item. A definition either makes a new item after a base record of
the host, or patches a record the host has (`patchTarget?`). Every field but the id has a
default, which `ItemDefinition.ofValue?` takes for a field that is not written.
-/
namespace Modpack

/-- What sort of item a definition declares. -/
inductive ItemKind where
  | consumable
  | gear
  | weapon
  | bag
  | other
deriving DecidableEq, Repr

namespace ItemKind

/-- The name of a kind. -/
def name : ItemKind → String
  | consumable => "consumable"
  | gear => "gear"
  | weapon => "weapon"
  | bag => "bag"
  | other => "other"

/-- The kind of a name; names that are not known are the other kind. -/
def ofName (name : String) : ItemKind :=
  if name = "consumable" then consumable
  else if name = "gear" then gear
  else if name = "weapon" then weapon
  else if name = "bag" then bag
  else other

/-- A kind is read from its name. -/
theorem ofName_name (kind : ItemKind) : ofName kind.name = kind := by
  cases kind <;> decide

end ItemKind

/-- Where on the body a piece of gear is worn. -/
inductive GearCategory where
  | hat
  | jacket
  | trousers
  | shoes
deriving DecidableEq, Repr

namespace GearCategory

/-- The name of a category. -/
def name : GearCategory → String
  | hat => "hat"
  | jacket => "jacket"
  | trousers => "trousers"
  | shoes => "shoes"

/-- The category of a name in any case; a name that is not known means a jacket. -/
def ofName (name : String) : GearCategory :=
  let lowered := Text.lowered name
  if lowered = "hat" then hat
  else if lowered = "trousers" then trousers
  else if lowered = "shoes" then shoes
  else jacket

end GearCategory

/-- A change of a stat when the item is used. -/
structure EffectDefinition where
  /-- The stat, as the package names it. -/
  stat : String
  /-- The text of the change. -/
  value : String := "0"
deriving DecidableEq, Repr

/-- A bonus on a stat while gear is worn. -/
structure StatBonus where
  /-- The stat, as the package names it. -/
  stat : String
  /-- How much it is raised. -/
  value : Int := 0
deriving DecidableEq, Repr

/-- An item as a package defines it. -/
structure ItemDefinition where
  /-- The id, unique in its package. -/
  id : String
  /-- The host record a new item starts from. -/
  baseItem : Nat := 1
  /-- The kind of item. -/
  kind : ItemKind := .consumable
  /-- The name shown, or a phrase key. -/
  name : String := ""
  /-- The description shown, or a phrase key. -/
  description : String := ""
  /-- The path of the icon in the package folder. -/
  icon : String := ""
  /-- The price. -/
  price : Int := 100
  /-- The weight. -/
  weight : Float := 0.1
  /-- What using the item does. -/
  effects : List EffectDefinition := []
  /-- The color that marks a rare item. -/
  rareColor : Int := 0
  /-- Whether the item can be sold. -/
  sellable : Bool := true
  /-- Whether the item is kept from the fire. -/
  notForFire : Bool := false
  /-- Whether traders may stock the item. -/
  isStockable : Bool := true
  /-- How many of the item traders stock. -/
  actualStockCount : Int := 1
  /-- The sound the item makes. -/
  soundType : Int := 0
  /-- The rate of fire. -/
  firerate : Int := 0
  /-- The item whose icon this one borrows; zero for none. -/
  referenceItemId : Nat := 0
  /-- Whether the definition patches a host record. -/
  isModify : Bool := false
  /-- The host record that is patched; zero for none. -/
  targetItemId : Nat := 0
  /-- Where gear is worn. -/
  category : String := ""
  /-- How well gear keeps warm. -/
  warmResistance : Int := 0
  /-- How well gear keeps dry. -/
  wetResistance : Int := 0
  /-- How slowly gear wears out. -/
  durabilityResistance : Int := 100
  /-- The bonuses of gear. -/
  stats : List StatBonus := []
  /-- The attack of a weapon. -/
  attack : Int := 0
  /-- The defense of a weapon. -/
  defense : Int := 0
  /-- The chance of a critical hit, in percent. -/
  criticalChance : Int := 0
  /-- How long a weapon lasts. -/
  maxDurability : Int := 100
  /-- How much a bag holds. -/
  bagCapacity : Float := 0.0
deriving DecidableEq

namespace ItemDefinition

/-- A definition with an id and every other field at its default. -/
def minimal (id : String) : ItemDefinition := { id := id }

/-- The host record this definition patches, if it does not make a new item. -/
def patchTarget? (item : ItemDefinition) : Option Nat :=
  if item.isModify ∧ 0 < item.targetItemId then some item.targetItemId else none

/-- Where the item is worn, if it is gear. -/
def gearCategory (item : ItemDefinition) : GearCategory :=
  GearCategory.ofName item.category

end ItemDefinition

/-! ## Reading -/

open Document

/-- The text of an effect, written as a text or as a number. A whole number of 64 bits is taken
by its digits, any other number in its shortest form. -/
def EffectDefinition.value? : Value → Option String
  | .text value => some value
  | .int value =>
    if Whole.minWide ≤ value ∧ value ≤ Whole.maxWide then some (Whole.text value)
    else some (Shortest.text (Float.ofInt value))
  | .float value => some (Shortest.text value)
  | _ => none

/-- The fields of an effect. -/
def EffectDefinition.schema : List Field := [⟨"stat", ["type"]⟩, field "value"]

/-- An effect from a document. -/
def EffectDefinition.ofValue? (format : Format) (value : Value) : Option EffectDefinition := do
  let found ← fields? format schema value
  let stat ← required? text? found "stat"
  let value ← withDefault? "0" EffectDefinition.value? found "value"
  some { stat, value }

/-- The fields of a bonus. -/
def StatBonus.schema : List Field := [field "type", field "value"]

/-- A bonus from a document. -/
def StatBonus.ofValue? (format : Format) (value : Value) : Option StatBonus := do
  let found ← fields? format schema value
  let stat ← required? text? found "type"
  let value ← withDefault? 0 count? found "value"
  some { stat, value }

/-- The kind of an item from a document. -/
def ItemKind.ofValue? (format : Format) (value : Value) : Option ItemKind :=
  (name? format value).map ItemKind.ofName

namespace ItemDefinition

/-- The fields of an item. -/
def schema : List Field :=
  [field "id", field "baseItem", field "type", field "name", field "description", field "icon",
    field "price", field "weight", field "effects", field "rareColor", field "sellable",
    field "notForFire", field "isStockable", field "actualStockCount", field "soundType",
    field "firerate", field "referenceItemId", field "isModify", field "targetItemId",
    field "category", field "warmResistance", field "wetResistance",
    field "durabilityResistance", field "stats", field "attack", field "defense",
    field "criticalChance", field "maxDurability", field "bagCapacity"]

/-- An item from what is written for its fields. -/
def ofFound? (format : Format) (found : Found) : Option ItemDefinition := do
  let id ← required? text? found "id"
  let plain := minimal id
  let baseItem ← withDefault? plain.baseItem id? found "baseItem"
  let kind ← withDefault? plain.kind (ItemKind.ofValue? format) found "type"
  let name ← withDefault? plain.name text? found "name"
  let description ← withDefault? plain.description text? found "description"
  let icon ← withDefault? plain.icon text? found "icon"
  let price ← withDefault? plain.price wide? found "price"
  let weight ← withDefault? plain.weight float? found "weight"
  let effects ← withDefault? plain.effects (list? (EffectDefinition.ofValue? format)) found
    "effects"
  let rareColor ← withDefault? plain.rareColor wide? found "rareColor"
  let sellable ← withDefault? plain.sellable bool? found "sellable"
  let notForFire ← withDefault? plain.notForFire bool? found "notForFire"
  let isStockable ← withDefault? plain.isStockable bool? found "isStockable"
  let actualStockCount ← withDefault? plain.actualStockCount wide? found "actualStockCount"
  let soundType ← withDefault? plain.soundType wide? found "soundType"
  let firerate ← withDefault? plain.firerate wide? found "firerate"
  let referenceItemId ← withDefault? plain.referenceItemId id? found "referenceItemId"
  let isModify ← withDefault? plain.isModify bool? found "isModify"
  let targetItemId ← withDefault? plain.targetItemId id? found "targetItemId"
  let category ← withDefault? plain.category text? found "category"
  let warmResistance ← withDefault? plain.warmResistance wide? found "warmResistance"
  let wetResistance ← withDefault? plain.wetResistance wide? found "wetResistance"
  let durabilityResistance ← withDefault? plain.durabilityResistance wide? found
    "durabilityResistance"
  let stats ← withDefault? plain.stats (list? (StatBonus.ofValue? format)) found "stats"
  let attack ← withDefault? plain.attack wide? found "attack"
  let defense ← withDefault? plain.defense wide? found "defense"
  let criticalChance ← withDefault? plain.criticalChance wide? found "criticalChance"
  let maxDurability ← withDefault? plain.maxDurability wide? found "maxDurability"
  let bagCapacity ← withDefault? plain.bagCapacity float? found "bagCapacity"
  some
    { id, baseItem, kind, name, description, icon, price, weight, effects, rareColor, sellable,
      notForFire, isStockable, actualStockCount, soundType, firerate, referenceItemId, isModify,
      targetItemId, category, warmResistance, wetResistance, durabilityResistance, stats, attack,
      defense, criticalChance, maxDurability, bagCapacity }

/-- An item from a document. -/
def ofValue? (format : Format) (value : Value) : Option ItemDefinition :=
  (fields? format schema value).bind (ofFound? format)

end ItemDefinition

end Modpack
