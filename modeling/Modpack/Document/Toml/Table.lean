import Modpack.Document.Value

/-!
# Tables of a TOML document

A document builds its tables from headers and keys in any order, under rules that keep every
table from being defined twice. A table that is only passed through on the way to another is
implicit, and a header may still define it; one that a dotted key passed through may only be
extended by dotted keys. `Node.toValue` forgets these marks.
-/
namespace Modpack.Toml

/-- What stands under a name while tables are being built. -/
inductive Node where
  /-- A finished value. -/
  | leaf (value : Value)
  /-- A table with its marks and its named parts. -/
  | table (isImplicit isDotted : Bool) (parts : List (String × Node))
  /-- Tables that share one header, in order. -/
  | tables (elements : List (List (String × Node)))

/-- Named parts of a table. -/
abbrev Parts := List (String × Node)

/-- The part under a name. -/
def part? (name : String) (parts : Parts) : Option Node :=
  parts.lookup name

/-- Put a part under a name, in the place of the one that is there. -/
def setPart (name : String) (node : Node) : Parts → Parts
  | [] => [(name, node)]
  | entry :: rest =>
    if entry.1 = name then (name, node) :: rest else entry :: setPart name node rest

/-- A table while it is changed: its parts and whether a dotted key made it. -/
structure Target where
  /-- Whether a dotted key made it. -/
  isDotted : Bool
  /-- Its parts. -/
  parts : Parts

/-- Change the table at the end of a path. Tables missing on the way are made, with the given
mark. A path goes through the last of several tables that share a header. A dotted path must
not go through a table that a header defined. -/
def changeAt (isDotted : Bool) (change : Target → Option Parts) :
    List String → Target → Option Parts
  | [], target => change target
  | name :: path, target =>
    match part? name target.parts with
    | none => do
      let inner ← changeAt isDotted change path ⟨isDotted, []⟩
      some (setPart name (.table true isDotted inner) target.parts)
    | some (.leaf _) => none
    | some (.table isImplicit wasDotted parts) =>
      if isDotted && !isImplicit then none
      else do
        let inner ← changeAt isDotted change path ⟨wasDotted, parts⟩
        some (setPart name (.table isImplicit wasDotted inner) target.parts)
    | some (.tables elements) =>
      match elements.getLast? with
      | none => none
      | some last => do
        let inner ← changeAt isDotted change path ⟨false, last⟩
        some (setPart name (.tables (elements.dropLast ++ [inner])) target.parts)

/-- Add a value under a key. All parts but the last lead to a table that dotted keys made; the
last must be new there. -/
def addValue? (key : List String) (value : Value) (parts : Parts) : Option Parts :=
  match key.getLast? with
  | none => none
  | some name =>
    let path := key.dropLast
    let add (target : Target) : Option Parts :=
      if target.isDotted = path.isEmpty then none
      else match part? name target.parts with
        | some _ => none
        | none => some (target.parts ++ [(name, .leaf value)])
    changeAt true add path ⟨false, parts⟩

/-- Add several values in order. -/
def addValues? (values : List (List String × Value)) (parts : Parts) : Option Parts :=
  values.foldlM (fun parts entry => addValue? entry.1 entry.2 parts) parts

/-- A header and the values under it. -/
structure Section where
  /-- The parts of the header's key. -/
  key : List String
  /-- Whether the header is one of several that share its key. -/
  isShared : Bool
  /-- The keys and values under it, in order. -/
  values : List (List String × Value)

/-- Add what stands under a header. A plain header defines a table that is new or still
implicit; a shared one adds a table to those under its key. -/
def Section.addTo? (part : Section) (parts : Parts) : Option Parts :=
  match part.key.getLast? with
  | none => none
  | some name =>
    let add (target : Target) : Option Parts :=
      match part.isShared, part? name target.parts with
      | true, none => do
        let inner ← addValues? part.values []
        some (setPart name (.tables [inner]) target.parts)
      | true, some (.tables elements) => do
        let inner ← addValues? part.values []
        some (setPart name (.tables (elements ++ [inner])) target.parts)
      | true, some _ => none
      | false, none => do
        let inner ← addValues? part.values []
        some (setPart name (.table false false inner) target.parts)
      | false, some (.table true false present) => do
        let inner ← addValues? part.values present
        some (setPart name (.table false false inner) target.parts)
      | false, some _ => none
    changeAt false add part.key.dropLast ⟨false, parts⟩

mutual

/-- A node as a value. -/
def Node.toValue : Node → Value
  | .leaf value => value
  | .table _ _ parts => .record (fieldsOf parts)
  | .tables elements => .list (recordsOf elements)

/-- Named parts as the fields of a record. -/
def fieldsOf : List (String × Node) → List (String × Value)
  | [] => []
  | (name, node) :: rest => (name, node.toValue) :: fieldsOf rest

/-- Tables that share a header as records. -/
def recordsOf : List (List (String × Node)) → List Value
  | [] => []
  | parts :: rest => .record (fieldsOf parts) :: recordsOf rest

end

end Modpack.Toml
