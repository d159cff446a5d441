import Modpack.Definition.Item
import Modpack.Definition.Quest
import Modpack.Definition.Recipe
import Modpack.Dict
import Modpack.Files.Path

/-!
# Packages

A package is a manifest, a phrasebook, and the definitions of its items, recipes and
quests. Text that starts with an at sign is a phrase key; all other text stands for
itself. The key of a definition is the id of its package, a colon and its own id.
-/
namespace Modpack

/-- The phrases of a package in one language. -/
structure Phrasebook where
  /-- The text under each key. -/
  texts : Dict String String

namespace Phrasebook

/-- No phrases. -/
def empty : Phrasebook := ⟨Dict.empty⟩

instance : Inhabited Phrasebook := ⟨empty⟩

/-- The text under a key. -/
def get? (phrases : Phrasebook) (key : String) : Option String :=
  phrases.texts.get? key

/-- A text with the phrase in the place of a key; a key without a phrase loses its at sign only. -/
def resolve (phrases : Phrasebook) (text : String) : String :=
  match text.toList with
  | '@' :: key =>
    let key := String.ofList key
    (phrases.get? key).getD key
  | _ => text

/-- Phrases from a document: a record of texts, the last of several under one key. -/
def ofValue? : Value → Option Phrasebook
  | .record fields =>
    (fields.mapM fun entry => (Document.text? entry.2).map fun text => (entry.1, text)).map
      fun texts => ⟨Dict.ofList texts⟩
  | _ => none

end Phrasebook

/-- What a package says about itself. -/
structure Manifest where
  /-- The id of the package. -/
  id : String
  /-- Its name; empty when it is not given. -/
  name : String := ""
  /-- Its version. -/
  version : String := "1.0.0"
  /-- Who made it. -/
  author : String := "Unknown"
  /-- What it is about. -/
  description : String := ""
  /-- The version of the game it is made for. -/
  gameVersion : String := ""
  /-- The packages it needs. -/
  dependencies : List String := []
deriving DecidableEq, Repr

namespace Manifest

open Document

/-- The fields of a manifest. -/
def schema : List Field :=
  [field "id", field "name", field "version", field "author", field "description",
    field "gameVersion", field "dependencies"]

/-- A manifest from a document. -/
def ofValue? (format : Format) (value : Value) : Option Manifest := do
  let found ← fields? format schema value
  let id ← required? text? found "id"
  let plain : Manifest := { id := id }
  let name ← withDefault? plain.name text? found "name"
  let version ← withDefault? plain.version text? found "version"
  let author ← withDefault? plain.author text? found "author"
  let description ← withDefault? plain.description text? found "description"
  let gameVersion ← withDefault? plain.gameVersion text? found "gameVersion"
  let dependencies ← withDefault? plain.dependencies (list? text?) found "dependencies"
  some { id, name, version, author, description, gameVersion, dependencies }

end Manifest

/-- A package as its definitions see it. -/
structure PackageInfo where
  /-- The manifest, with a name in any case. -/
  manifest : Manifest
  /-- The folder of the package. -/
  folder : String
  /-- The phrases. -/
  phrases : Phrasebook

namespace PackageInfo

/-- A package from its manifest; one without a name is named by its id. -/
def ofManifest (manifest : Manifest) (folder : String) (phrases : Phrasebook) :
    PackageInfo :=
  { manifest :=
      { manifest with name := if manifest.name = "" then manifest.id else manifest.name }
    folder, phrases }

/-- A package without folder and phrases. -/
def inMemory (id : String) : PackageInfo :=
  ofManifest { id := id } "" .empty

/-- The id of the package. -/
def id (package : PackageInfo) : String :=
  package.manifest.id

/-- The key of a definition of the package. -/
def qualify (package : PackageInfo) (definition : String) : String :=
  package.id ++ ":" ++ definition

/-- A text of the package as it is shown. -/
def resolve (package : PackageInfo) (text : String) : String :=
  package.phrases.resolve text

/-- The path of a file of the package. -/
def path (package : PackageInfo) (file : String) : String :=
  Path.join package.folder file

end PackageInfo

/-- A package with its definitions. -/
structure Package where
  /-- The package. -/
  info : PackageInfo
  /-- Its items, in order. -/
  items : List ItemDefinition := []
  /-- Its recipes, in order. -/
  recipes : List RecipeDefinition := []
  /-- Its quests, in order. -/
  quests : List QuestDefinition := []

/-- How many definitions a package has. -/
def Package.definitionCount (package : Package) : Nat :=
  package.items.length + package.recipes.length + package.quests.length

end Modpack
