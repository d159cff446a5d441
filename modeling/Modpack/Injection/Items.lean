import Modpack.Effect.Names
import Modpack.Host
import Modpack.IdRanges
import Modpack.Injection.Pass

/-!
# Injecting items

An entry that makes a new item writes over a copy of a base record, and lists the copy shares with
the base are replaced before anything is put into them. The copy goes into the table at the end,
after the strings; a write that the host refuses stops the step before. An entry that patches a
host record writes in place what the record does not already hold, so a refusal would leave what
was written until then. An icon that is borrowed from an item without one is copied later, by
`retryIcon` or `retryIcons`.
-/
namespace Modpack

/-- What injection keeps on its own side. -/
structure Marks where
  /-- The items whose icon is still missing, each with the item it is borrowed from. -/
  pendingIcons : IdMap Nat
  /-- The items that are bags. -/
  bags : IdMap Unit

namespace Marks

/-- No item is marked. -/
def empty : Marks := ⟨.empty, .empty⟩

/-- Mark an item as a bag. The answer tells whether it was none before. -/
def addBag (marks : Marks) (id : Nat) : Bool × Marks :=
  (!marks.bags.contains id, { marks with bags := marks.bags.insert id () })

end Marks

/-- The tables of the host and the marks on the side of injection. -/
structure ItemState where
  /-- The tables. -/
  tables : Tables
  /-- The marks. -/
  marks : Marks

/-- The icon of a record. -/
def iconOf? (items : Table ItemRecord) (id : Nat) : Option FieldValue :=
  (items.get? id).bind fun record => record.get? .icon

/-! ## New items -/

/-- Writes to the plain fields of a record. -/
abbrev ItemWrites := List (ItemField × FieldValue)

namespace ItemDefinition

/-- What every new item writes. -/
def commonWrites (item : ItemDefinition) (id titleKey : Nat) : ItemWrites :=
  [(.id, .id id), (.titleKey, .int titleKey), (.descriptionKey, .int (titleKey + 1)),
    (.price, .int item.price), (.weight, .float item.weight), (.rareColor, .int item.rareColor),
    (.sellable, .bool item.sellable), (.notForFire, .bool item.notForFire),
    (.soundType, .int item.soundType), (.fireRate, .int item.firerate)]

/-- What an item writes whose shape traders stock. -/
def stockWrites (item : ItemDefinition) : ItemVariant → ItemWrites
  | .consumable | .scrap =>
    [(.stockable, .bool item.isStockable), (.stockCount, .int item.actualStockCount)]
  | _ => []

/-- What an item writes when its kind and the shape of its base agree. -/
def kindWrites (item : ItemDefinition) (variant : ItemVariant) : ItemWrites :=
  match item.kind, variant with
  | .gear, .gear =>
    [(.category, .text item.gearCategory.name), (.warmResistance, .int item.warmResistance),
      (.wetResistance, .int item.wetResistance),
      (.durabilityResistance, .int item.durabilityResistance)]
  | .weapon, .weapon =>
    [(.attack, .int item.attack), (.defense, .int item.defense),
      (.criticalChance, .int item.criticalChance), (.maxDurability, .int item.maxDurability),
      (.actualDurability, .int item.maxDurability)]
  | .bag, .bag => if item.bagCapacity > 0.0 then [(.capacity, .float item.bagCapacity)] else []
  | _, _ => []

/-- The lists an item needs for itself. -/
def ownLists (item : ItemDefinition) (variant : ItemVariant) : List ItemList :=
  match item.kind, variant with
  | .consumable, .consumable => [.changes, .buffChanges, .parameterChanges]
  | .gear, .gear => [.parameterChanges]
  | _, _ => []

/-- The bonuses of a piece of gear whose parameter the host knows. -/
def bonusEntries (item : ItemDefinition) (variant : ItemVariant) : List ListEntry :=
  match item.kind, variant with
  | .gear, .gear => item.stats.filterMap fun bonus =>
      (Effect.parameter? bonus.stat).map fun stat => .parameter stat bonus.value
  | _, _ => []

/-- Whether the item is a bag made after a bag. -/
def makesBag (item : ItemDefinition) (variant : ItemVariant) : Bool :=
  match item.kind, variant with
  | .bag, .bag => true
  | _, _ => false

end ItemDefinition

/-- Where the icon of a new item comes from. -/
inductive IconSource where
  /-- It keeps the icon of its base. -/
  | base
  /-- It has this icon. -/
  | given (icon : FieldValue)
  /-- It borrows the icon of an item that has none yet. -/
  | awaited (item : Nat)
deriving DecidableEq

/-- The source of a new item's icon. A borrowed icon goes before one of the package's own. -/
def iconSource (items : Table ItemRecord) (entry : Entry ItemDefinition) : IconSource :=
  let item := entry.definition
  if 0 < item.referenceItemId then
    match iconOf? items item.referenceItemId with
    | some icon => .given icon
    | none => .awaited item.referenceItemId
  else if item.icon = "" then .base
  else .given (.asset (entry.package.path item.icon))

/-- What an icon writes. -/
def IconSource.writes : IconSource → ItemWrites
  | given icon => [(.icon, icon)]
  | base | awaited _ => []

/-- Write fields of a record that is not in a table yet; a refusal halts in the state given. -/
def ItemRecord.write (record : ItemRecord) (writes : ItemWrites) (state : ItemState) :
    Except (Halt ItemState) ItemRecord :=
  leaving state ((record.setAll writes).mapError .host)

/-- Accepted writes give the record with them. -/
theorem ItemRecord.write_of_accepted {record written : ItemRecord} {writes : ItemWrites}
    (accepted : record.setAll writes = .ok written) (state : ItemState) :
    record.write writes state = .ok written := by
  rw [ItemRecord.write, accepted]
  rfl

/-- Replace nested lists of a record by fresh ones, in order. -/
def detachAll (record : ItemRecord) (store : ListStore) (lists : List ItemList) :
    ItemRecord × ListStore :=
  lists.foldl (fun made list => made.1.detach made.2 list) (record, store)

/-- Give a record what it has by the kind of its item: fields first, then lists of its own with
the bonuses in them. A bag is marked at the end. -/
def ItemDefinition.writeKind (item : ItemDefinition) (variant : ItemVariant) (id : Nat)
    (record : ItemRecord) (state : ItemState) :
    Except (Halt ItemState) (ItemRecord × ItemState) := do
  let record ← record.write (item.kindWrites variant) state
  let (record, lists) := detachAll record state.tables.lists (item.ownLists variant)
  let lists := (item.bonusEntries variant).foldl
    (fun lists entry => lists.push record.parameterChanges entry) lists
  .ok (record,
    { tables := { state.tables with lists }
      marks := if item.makesBag variant then (state.marks.addBag id).2 else state.marks })

/-- Make a new item. It fails when the record to start from is missing. -/
def makeItem (ids : IdRanges) (entry : Entry ItemDefinition) (state : ItemState) :
    Except (Halt ItemState) (Step ItemState) :=
  let item := entry.definition
  let id := entry.id
  match state.tables.items.get? item.baseItem with
  | none => .error ⟨.baseMissing entry.key item.baseItem, state⟩
  | some base => do
    let variant := base.variant
    let icon := iconSource state.tables.items entry
    let record ← base.write (item.commonWrites id (ids.titleKey id)) state
    let record ← record.write (item.stockWrites variant) state
    let record ← record.write icon.writes state
    let (record, state) ← item.writeKind variant id record state
    let tables := state.tables
    let strings := (tables.strings.set (ids.titleKey id) (entry.resolve item.name)).set
      (ids.descriptionKey id) (entry.resolve item.description)
    let tables := { tables with strings, items := tables.items.set id record }
    match icon with
    | .awaited reference =>
      let marks :=
        { state.marks with pendingIcons := state.marks.pendingIcons.insert id reference }
      .ok ⟨.deferred, id, ⟨tables, marks⟩⟩
    | _ => .ok ⟨.injected, id, ⟨tables, state.marks⟩⟩

/-! ## Patches -/

/-- The weights within this distance of the default count as the default. -/
def weightTolerance : Float := Float.ofBits 0x3CB0000000000000

/-- What a patch would have its target hold. Only fields that differ from their defaults count,
apart from the two that are true or false, which always do. -/
def ItemDefinition.patchValues (item : ItemDefinition) (items : Table ItemRecord) : ItemWrites :=
  let plain := minimal item.id
  (if item.price ≠ plain.price then [(.price, .int item.price)] else [])
    ++ (if (item.weight - plain.weight).abs > weightTolerance
      then [(.weight, .float item.weight)] else [])
    ++ (if item.rareColor ≠ 0 then [(.rareColor, .int item.rareColor)] else [])
    ++ [(.sellable, .bool item.sellable), (.notForFire, .bool item.notForFire)]
    ++ (if item.soundType ≠ 0 then [(.soundType, .int item.soundType)] else [])
    ++ (if item.firerate ≠ 0 then [(.fireRate, .int item.firerate)] else [])
    ++ (if 0 < item.referenceItemId then
        match iconOf? items item.referenceItemId with
        | some icon => [(.icon, icon)]
        | none => []
      else [])

/-- Whether a record does not hold a value. -/
def ItemRecord.lacks (record : ItemRecord) (write : ItemField × FieldValue) : Bool :=
  match record.get? write.1 with
  | some held => !held.same write.2
  | none => true

/-- What a patch still has to write; none when its target is missing. -/
def ItemDefinition.patchWrites? (item : ItemDefinition) (items : Table ItemRecord) :
    Option ItemWrites :=
  (items.get? item.targetItemId).map fun target => (item.patchValues items).filter target.lacks

/-- Write several fields of a record in place, up to the first that is refused. The answer is the
record with what was written, and the refusal. -/
def ItemRecord.setEach : ItemRecord → ItemWrites → ItemRecord × Option HostError
  | record, [] => (record, none)
  | record, write :: rest =>
    match record.set write.1 write.2 with
    | .ok written => written.setEach rest
    | .error refusal => (record, some refusal)

/-- Patch a host record. A patch that finds nothing to write is skipped. -/
def patchStep (entry : Entry ItemDefinition) (state : ItemState) :
    Except (Halt ItemState) (Step ItemState) :=
  let item := entry.definition
  let target := item.targetItemId
  let items := state.tables.items
  match items.get? target, item.patchWrites? items with
  | some record, some writes =>
    if writes.isEmpty then .ok ⟨.skipped, target, state⟩
    else
      let (written, refusal) := record.setEach writes
      let after :=
        { state with tables := { state.tables with items := items.set target written } }
      match refusal with
      | none => .ok ⟨.patched, target, after⟩
      | some error => .error ⟨.host error, after⟩
  | _, _ => .error ⟨.targetMissing entry.key target, state⟩

/-- Whether some patch has lost its effect. A patch whose target is missing does not count. -/
def patchesOutdated (registry : Registry ItemDefinition) (items : Table ItemRecord) : Bool :=
  registry.entries.any fun entry =>
    entry.isPatch && match entry.definition.patchWrites? items with
      | some writes => !writes.isEmpty
      | none => false

/-! ## The pass -/

/-- Inject one item: patch, pass over what is there, or make it. -/
def itemStep (ids : IdRanges) (entry : Entry ItemDefinition) (state : ItemState) :
    Except (Halt ItemState) (Step ItemState) :=
  if entry.isPatch then patchStep entry state
  else if state.tables.items.contains entry.id then .ok ⟨.skipped, entry.id, state⟩
  else makeItem ids entry state

/-- Inject all items of a registry. The pass does not begin while the table is not ready. -/
def injectItems (ids : IdRanges) (registry : Registry ItemDefinition) (state : ItemState) :
    Except InjectError (Pass ItemState ItemDefinition) :=
  if state.tables.items.isReady then
    .ok (runPass (itemStep ids) registry.entries state)
  else .error (.tableNotReady Tables.itemsName)

/-! ## Missing icons -/

/-- Copy the icon an item waits for, if both records are there and the other has one. The answer
tells whether it was copied. -/
def retryIcon (id : Nat) (state : ItemState) : Bool × ItemState :=
  let items := state.tables.items
  match state.marks.pendingIcons.get? id, items.get? id with
  | some reference, some record =>
    match iconOf? items reference with
    | none => (false, state)
    | some icon =>
      match record.set .icon icon with
      | .error _ => (false, { state with tables := { state.tables with items := items.touch } })
      | .ok copied =>
        (true,
          { tables := { state.tables with items := items.set id copied }
            marks :=
              { state.marks with pendingIcons := state.marks.pendingIcons.erase id } })
  | _, _ => (false, state)

/-- Copy the icons that given items wait for, in order. The answer counts those copied. -/
def retryEach : List Nat → ItemState → Nat × ItemState
  | [], state => (0, state)
  | id :: rest, state =>
    let (copied, state) := retryIcon id state
    let (count, state) := retryEach rest state
    ((if copied then 1 else 0) + count, state)

/-- Copy every missing icon that can be copied now, in ascending order of the items. -/
def retryIcons (state : ItemState) : Nat × ItemState :=
  retryEach state.marks.pendingIcons.ids state

end Modpack
