import Modpack.Package

/-!
# Registries

A registry gives numbers to the definitions of one kind. Keys stand in the order in which they
were first registered; registering a key again replaces its entry where it stands. A definition
that makes a new record gets the next number of the registry's counter. The counter has 32 bits,
so after the largest number it goes on from zero, where the host has records of its own. A
definition that patches a host record takes the number of that record and leaves the counter
alone. Two indexes find the entry of a key and the entry of a number that was given out; numbers
of patches are not in the second.
-/
namespace Modpack

/-- What a registry needs to know of the definitions it keeps. -/
class Definition (δ : Type) where
  /-- The word for this kind of definition. -/
  kind : String
  /-- The id, unique in its package. -/
  id : δ → String
  /-- The host record that is patched, for a definition that makes none. -/
  patchTarget? : δ → Option Nat

instance : Definition ItemDefinition := ⟨"item", ItemDefinition.id, ItemDefinition.patchTarget?⟩

instance : Definition RecipeDefinition := ⟨"recipe", RecipeDefinition.id, fun _ => none⟩

instance : Definition QuestDefinition := ⟨"quest", QuestDefinition.id, fun _ => none⟩

/-- Why a definition cannot be registered. -/
inductive RegisterError where
  /-- It has an empty id. -/
  | emptyId (kind package : String)
deriving DecidableEq, Repr

/-- The words for a definition that cannot be registered. -/
def RegisterError.message : RegisterError → String
  | emptyId kind package =>
    kind ++ " definition in package '" ++ package ++ "' has an empty id"

/-- A registered definition. -/
structure Entry (δ : Type) where
  /-- The key: package and definition. -/
  key : String
  /-- The number of its record. -/
  id : Nat
  /-- The package that declares it. -/
  package : PackageInfo
  /-- The definition. -/
  definition : δ
  /-- The record last written for it; the host may have dropped that since. -/
  materialized : Option Nat := none

/-- The number a counter gives after it has given `made` others. It counts from its base in 32
bits. Nothing is said of a counter that has given every number once, after 4294967296 records:
there the model counts on, beyond the numbers of the host. -/
def countFrom (base made : Nat) : Nat :=
  if made < Whole.idLimit then (base + made) % Whole.idLimit else base + made

/-- A counter that stays in 32 bits gives its base and one more for every number before. -/
theorem countFrom_of_lt {base made : Nat} (inRange : base + made < Whole.idLimit) :
    countFrom base made = base + made := by
  rw [countFrom, if_pos (by omega), Nat.mod_eq_of_lt inRange]

/-- A counter gives different numbers. -/
theorem countFrom_inj {base first second : Nat} :
    countFrom base first = countFrom base second ↔ first = second := by
  simp only [countFrom, Whole.idLimit]
  by_cases inFirst : first < 4294967296 <;> by_cases inSecond : second < 4294967296 <;>
    simp only [inFirst, inSecond, if_true, if_false] <;> omega

/-- The definitions of one kind. -/
structure Registry (δ : Type) where
  /-- The first number of the counter. -/
  base : Nat
  /-- How many numbers the counter has given. -/
  made : Nat
  /-- The entries, in the order their keys were first registered. -/
  entries : List (Entry δ)
  /-- The position of the entry of each key. -/
  positions : Dict String Nat
  /-- The position of the entry of each number given out and not retired. -/
  allocated : Dict Nat Nat

variable {δ : Type}

namespace Entry

/-- Whether the entry patches a host record. -/
def isPatch [Definition δ] (entry : Entry δ) : Bool :=
  (Definition.patchTarget? entry.definition).isSome

/-- The record written for the entry, if the host still has it. -/
def materializedIn? (entry : Entry δ) (contains : Nat → Bool) : Option Nat :=
  entry.materialized.filter contains

/-- A text of the entry as it is shown. -/
def resolve (entry : Entry δ) (text : String) : String :=
  entry.package.resolve text

end Entry

namespace Registry

/-- The registry without entries, counting from a base. -/
def empty (base : Nat) : Registry δ := ⟨base, 0, [], .empty, .empty⟩

/-- The next number of the counter. -/
def next (registry : Registry δ) : Nat := countFrom registry.base registry.made

/-- Take the number of a replaced entry out of the index; a patch had none there. -/
def retire [Definition δ] (allocated : Dict Nat Nat) (entry : Entry δ) : Dict Nat Nat :=
  if entry.isPatch then allocated else allocated.erase entry.id

/-- Put an entry under its key and index it, in the place of the one that was there. -/
def place [Definition δ] (registry : Registry δ) (entry : Entry δ) : Registry δ :=
  let index (allocated : Dict Nat Nat) (position : Nat) : Dict Nat Nat :=
    if entry.isPatch then allocated else allocated.insert entry.id position
  match registry.positions.get? entry.key with
  | some position =>
    let allocated := match registry.entries[position]? with
      | some old => retire registry.allocated old
      | none => registry.allocated
    { registry with
      entries := registry.entries.set position entry
      allocated := index allocated position }
  | none =>
    let position := registry.entries.length
    { registry with
      entries := registry.entries ++ [entry]
      positions := registry.positions.insert entry.key position
      allocated := index registry.allocated position }

/-- Register a definition. The answer is its number and the registry with it. -/
def register [Definition δ] (registry : Registry δ) (package : PackageInfo) (definition : δ) :
    Except RegisterError (Nat × Registry δ) :=
  let name := Definition.id definition
  if name = "" then .error (.emptyId (Definition.kind δ) package.id)
  else
    let key := package.qualify name
    match Definition.patchTarget? definition with
    | some target => .ok (target, registry.place { key, id := target, package, definition })
    | none =>
      let id := registry.next
      .ok (id, { registry with made := registry.made + 1 }.place { key, id, package, definition })

/-- The entry of a key. -/
def byKey? (registry : Registry δ) (key : String) : Option (Entry δ) :=
  (registry.positions.get? key).bind fun position => registry.entries[position]?

/-- The entry of a number that was given out and not retired. -/
def byId? (registry : Registry δ) (id : Nat) : Option (Entry δ) :=
  (registry.allocated.get? id).bind fun position => registry.entries[position]?

/-- Whether a number was given out and not retired. -/
def isRegistered (registry : Registry δ) (id : Nat) : Bool :=
  registry.allocated.contains id

/-- Whether a key ends in a colon and a name, case apart. -/
def hasName (key name : String) : Bool :=
  (':' :: Text.lower name.toList).isSuffixOf (Text.lower key.toList)

/-- The one entry whose key ends in a colon and a name; none when several do. -/
def byName? (registry : Registry δ) (name : String) : Option (Entry δ) :=
  if name = "" then none
  else match registry.entries.filter fun entry => hasName entry.key name with
    | [entry] => some entry
    | _ => none

/-- The first number in the registry's order that was given out. -/
def firstAllocated? [Definition δ] (registry : Registry δ) : Option Nat :=
  (registry.entries.find? fun entry => !entry.isPatch).map Entry.id

/-- Whether the host lacks the record of that first number. -/
def needsInjection [Definition δ] (registry : Registry δ)
    (contains : Nat → Bool) : Bool :=
  match registry.firstAllocated? with
  | some id => !contains id
  | none => false

/-- Say which record was written for the entry of a key, or that none is known. -/
def setMaterialized (registry : Registry δ) (key : String) (record : Option Nat) : Registry δ :=
  { registry with
    entries := registry.entries.map fun entry =>
      if entry.key = key then { entry with materialized := record } else entry }

end Registry

/-! ## Items -/

namespace Registry

/-- The number of the item a reference means, as seen from a package. Numbers mean themselves,
also when written as text. A name is looked up as an item of the package, then as a key, then
as the end of a key. -/
def resolveItem? (items : Registry ItemDefinition) (package : String) : ItemRef → Option Nat
  | .id number => some number
  | .name name =>
    match Whole.id? name.toList with
    | some number => some number
    | none =>
      ((items.byKey? (package ++ ":" ++ name)).or
        ((items.byKey? name).or (items.byName? name))).map Entry.id

/-- The number of the item under a key. -/
def idOf? (items : Registry ItemDefinition) (key : String) : Option Nat :=
  (items.byKey? key).map Entry.id

/-- The effects of the item with a number. -/
def effectsOf? (items : Registry ItemDefinition) (id : Nat) : Option (List EffectDefinition) :=
  (items.byId? id).map fun entry => entry.definition.effects

end Registry

end Modpack
