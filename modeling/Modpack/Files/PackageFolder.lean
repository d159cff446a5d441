import Modpack.Files.Read
import Modpack.Package

/-!
# Package folders

A package folder has a manifest, folders for items, recipes and quests, and a folder of
phrases. Documents stand directly in the three folders and are taken in ascending order of
their names; one that cannot be read is left out. The folders of several packages stand in one
folder and are taken in ascending order of their names; one without a good manifest is left out.
The order in which folders list their files does not matter.
-/
namespace Modpack

/-- The names a manifest may have; the first that is there counts. -/
def manifestNames : List String := ["mod.json", "mod.toml"]

/-- How the texts of a package are read. -/
structure Readers where
  /-- Its manifest, in a notation. -/
  manifest : Format → String → Option Manifest
  /-- Its phrases. -/
  phrases : String → Option Phrasebook
  /-- An item, in a notation. -/
  item : Format → String → Option ItemDefinition
  /-- A recipe, in a notation. -/
  recipe : Format → String → Option RecipeDefinition
  /-- A quest, in a notation. -/
  quest : Format → String → Option QuestDefinition

/-- The readers of the program. Phrases are always in JSON. -/
def Readers.ofDocuments : Readers where
  manifest format := format.decode? Manifest.ofValue?
  phrases := Format.json.decode? fun _ => Phrasebook.ofValue?
  item format := format.decode? ItemDefinition.ofValue?
  recipe format := format.decode? RecipeDefinition.ofValue?
  quest format := format.decode? QuestDefinition.ofValue?

namespace FileTree

variable {α : Type}

/-- The documents directly in a folder, in ascending order of their names. -/
def documents (tree : FileTree) (folder : String) : List String :=
  ((tree.sortedNames folder).map (Path.join folder)).filter fun path =>
    tree.isFile path && (Path.format? path).isSome

/-- What a reader finds in the documents directly in a folder, without those it cannot read. -/
def definitionsBy (reader : Format → String → Option α) (tree : FileTree) (folder : String) :
    List α :=
  (tree.documents folder).filterMap fun path => (readDocumentBy reader tree path).toOption

/-- The phrases of a package in a language; none when they cannot be read. -/
def phrasesBy (reader : String → Option Phrasebook) (tree : FileTree) (folder language : String) :
    Phrasebook :=
  let path := Path.join (Path.join folder "localization") (language ++ ".json")
  ((tree.text? path).bind reader).getD .empty

/-- The package that readers find in a folder. -/
def loadPackageBy (readers : Readers) (tree : FileTree) (language folder : String) :
    Except LoadError Package :=
  match (manifestNames.map (Path.join folder)).find? tree.isFile with
  | none => .error (.missingManifest folder)
  | some path => do
    let manifest ← readDocumentBy readers.manifest tree path
    .ok
      { info := .ofManifest manifest folder (phrasesBy readers.phrases tree folder language)
        items := definitionsBy readers.item tree (Path.join folder "items")
        recipes := definitionsBy readers.recipe tree (Path.join folder "recipes")
        quests := definitionsBy readers.quest tree (Path.join folder "quests") }

/-- The packages that readers find in the folders in a folder. -/
def loadPackagesBy (readers : Readers) (tree : FileTree) (language root : String) :
    List Package :=
  (((tree.sortedNames root).map (Path.join root)).filter tree.isFolder).filterMap fun folder =>
    (loadPackageBy readers tree language folder).toOption

/-- The package in a folder. -/
def loadPackage : FileTree → String → String → Except LoadError Package :=
  loadPackageBy .ofDocuments

/-- The packages whose folders stand in a folder. -/
def loadPackages : FileTree → String → String → List Package :=
  loadPackagesBy .ofDocuments

end FileTree

end Modpack
