import Modpack.Files.PackageFolder
import Modpack.Proofs.Listings

/-!
# What package folders load as

Whatever readers take the texts, a package is told from the place of its folder: its manifest, its
phrases, and the documents directly in its three folders, in ascending order of their names. Each
document is told from what stands at its own place, so the order in which folders list their names
does not matter.
-/
namespace Modpack

namespace FileTree

/-- Loading packages looks at what stands at the places, and not at the order of listings. -/
theorem loadPackagesBy_congr (readers : Readers) {left right : FileTree}
    (same : ∀ place, left.at? place = right.at? place)
    (working : left.workingFolder = right.workingFolder) :
    loadPackagesBy readers left = loadPackagesBy readers right := by
  have finds := find?_congr same working
  have listings := sortedNames_congr same working
  have reads : left.read? = right.read? := by
    funext path
    unfold read?
    rw [finds]
  have texts : left.text? = right.text? := by
    funext path
    unfold text?
    rw [reads]
  have folders : left.isFolder = right.isFolder := by
    funext path
    unfold isFolder
    rw [finds]
  have files : left.isFile = right.isFile := by
    funext path
    unfold isFile
    rw [reads]
  have reading {α : Type} (reader : Format → String → Option α) :
      readDocumentBy reader left = readDocumentBy reader right := by
    funext path
    unfold readDocumentBy
    rw [texts]
  funext language root
  unfold loadPackagesBy loadPackageBy phrasesBy definitionsBy documents
  simp only [listings, folders, files, texts, reading]

/-! ## Documents at places -/

/-- Every name goes down by one step, and whatever stands somewhere stands in a folder. -/
structure WellFormed (tree : FileTree) : Prop where
  /-- Names go down by one step. -/
  named : ∀ entry ∈ tree.nodes.entries, ∀ name ∈ entry.1, Path.IsName name
  /-- What is there is in a folder. -/
  rooted : ∀ entry ∈ tree.nodes.entries, tree.enter? entry.1.dropLast = some entry.1.dropLast

/-- A tree is well formed when its entries are. -/
theorem wellFormed_iff (tree : FileTree) : tree.WellFormed ↔
    (∀ entry ∈ tree.nodes.entries, ∀ name ∈ entry.1, Path.IsName name) ∧
      ∀ entry ∈ tree.nodes.entries, tree.enter? entry.1.dropLast = some entry.1.dropLast :=
  ⟨fun ⟨named, rooted⟩ => ⟨named, rooted⟩, fun ⟨named, rooted⟩ => ⟨named, rooted⟩⟩

instance (tree : FileTree) : Decidable tree.WellFormed :=
  decidable_of_iff _ tree.wellFormed_iff.symm

/-- In a well-formed tree what stands below a place has a name and stands in a folder. -/
theorem WellFormed.below {tree : FileTree} (formed : tree.WellFormed) {place : List String}
    {name : String} (there : (tree.at? (place ++ [name])).isSome) :
    Path.IsName name ∧ tree.enter? place = some place := by
  rw [at?_below] at there
  obtain ⟨node, held⟩ := Option.isSome_iff_exists.1 there
  have member := (Dict.get?_eq_some_iff _ _ _).1 held
  have inFolder := formed.rooted _ member
  rw [List.dropLast_concat] at inFolder
  exact ⟨formed.named _ member name (List.mem_append_right _ (List.mem_singleton_self name)),
    inFolder⟩

section Places

variable (tree : FileTree) {α : Type} (reader : Format → String → Option α)

/-- The content of the file at a place. -/
def fileAt? (place : List String) : Option ByteArray :=
  match tree.at? place with
  | some (.file bytes) => some bytes
  | _ => none

/-- The text of the file at a place. -/
def textAt? (place : List String) : Option String :=
  (tree.fileAt? place).bind String.fromUTF8?

/-- What the document under a name in a folder says: its name says a notation, it is a file of text,
and the reader finds in it, in that notation, what is asked for. -/
def documentAt? (place : List String) (name : String) : Option α :=
  (Path.formatOfName? name).bind fun format =>
    (tree.textAt? (place ++ [name])).bind (reader format)

/-- A document reads as a content: its name is something with the extension of a notation, a file of
text stands at its place, and the reader finds the content in it in that notation. -/
def Reads (place : List String) (name : String) (content : α) : Prop :=
  ∃ format stem bytes text, stem ≠ "" ∧ name = stem ++ "." ++ Path.extensionOf format ∧
    tree.at? (place ++ [name]) = some (.file bytes) ∧ String.fromUTF8? bytes = some text ∧
    reader format text = some content

/-- There is a content in the file at a place. -/
theorem fileAt?_eq_some_iff (place : List String) (bytes : ByteArray) :
    tree.fileAt? place = some bytes ↔ tree.at? place = some (.file bytes) := by
  unfold fileAt?
  cases tree.at? place with
  | none => simp
  | some node => cases node <;> simp

/-- What a document says is what it reads as. -/
theorem documentAt?_eq_some_iff (place : List String) (name : String) (content : α) :
    tree.documentAt? reader place name = some content ↔
      tree.Reads reader place name content := by
  unfold documentAt? textAt? Reads
  simp only [Option.bind_eq_some_iff, Path.formatOfName?_eq_some_iff, fileAt?_eq_some_iff]
  constructor
  · rintro ⟨format, ⟨stem, written, named⟩, text, ⟨bytes, file, spelt⟩, decoded⟩
    exact ⟨format, stem, bytes, text, written, named, file, spelt, decoded⟩
  · rintro ⟨format, stem, bytes, text, written, named, file, spelt, decoded⟩
    exact ⟨format, ⟨stem, written, named⟩, text, ⟨bytes, file, spelt⟩, decoded⟩

/-- A file stands at its place. -/
theorem at?_of_fileAt? {place : List String} (given : (tree.fileAt? place).isSome) :
    (tree.at? place).isSome := by
  obtain ⟨bytes, file⟩ := Option.isSome_iff_exists.1 given
  rw [(tree.fileAt?_eq_some_iff place bytes).1 file]
  rfl

/-- A document that can be read stands at its place. -/
theorem Reads.there {tree : FileTree} {reader : Format → String → Option α} {place : List String}
    {name : String} {content : α} (read : tree.Reads reader place name content) :
    (tree.at? (place ++ [name])).isSome := by
  obtain ⟨_, _, _, _, _, _, file, _, _⟩ := read
  rw [file]
  rfl

/-- Where there is no file no document says anything. -/
theorem documentAt?_of_none {place : List String} {name : String}
    (nothing : tree.fileAt? (place ++ [name]) = none) :
    tree.documentAt? reader place name = none := by
  unfold documentAt? textAt?
  rw [nothing]
  cases Path.formatOfName? name with
  | none => rfl
  | some format => rfl

/-- What a document says is told by what stands at its place. -/
theorem documentAt?_congr {left right : FileTree} {place : List String} {name : String}
    (same : left.at? (place ++ [name]) = right.at? (place ++ [name])) :
    left.documentAt? reader place name = right.documentAt? reader place name := by
  unfold documentAt? textAt? fileAt?
  rw [same]

end Places

/-! ## Reading by path -/

section Reading

variable (tree : FileTree) {folder : String} (written : folder ≠ "")
include written

/-- A joined path reads the file under the name in the folder. -/
theorem read?_join {name : String} (isName : Path.IsName name) :
    tree.read? (Path.join folder name) =
      (tree.folder? folder).bind fun place => tree.fileAt? (place ++ [name]) := by
  unfold read? fileAt?
  rw [tree.find?_join written isName]
  cases tree.folder? folder with
  | none => rfl
  | some place =>
    rw [Option.bind_some, Option.bind_some]
    cases tree.at? (place ++ [name]) with
    | none => rfl
    | some node =>
      cases node with
      | file bytes => rfl
      | folder => rfl

/-- A joined path leads to the folder under the name in the folder. -/
theorem folder?_join {name : String} (isName : Path.IsName name) :
    tree.folder? (Path.join folder name) =
      (tree.folder? folder).bind fun place => tree.enter? (place ++ [name]) := by
  rw [folder?, tree.find?_join written isName]
  cases tree.folder? folder with
  | none => rfl
  | some place =>
    rw [Option.bind_some, Option.bind_some]
    unfold enter?
    cases tree.at? (place ++ [name]) with
    | none => rfl
    | some node =>
      cases node with
      | file bytes => rfl
      | folder => rfl

omit written in
/-- What a document says is what the reader finds in its text in the notation that its path says. -/
theorem toOption_readDocumentBy {α : Type} (reader : Format → String → Option α) (path : String) :
    (readDocumentBy reader tree path).toOption =
      (Path.format? path).bind fun format => (tree.text? path).bind (reader format) := by
  unfold readDocumentBy formatOf
  cases Path.format? path with
  | none => rfl
  | some format =>
    rw [Option.bind_some]
    cases tree.text? path with
    | none => rfl
    | some text =>
      rw [Option.bind_some]
      dsimp only [Bind.bind, Except.bind]
      cases reader format text with
      | none => rfl
      | some content => rfl

/-- The document at a joined path says what the document under the name in the folder does. -/
theorem readDocumentBy_join {α : Type} (reader : Format → String → Option α) {name : String}
    (isName : Path.IsName name) :
    (readDocumentBy reader tree (Path.join folder name)).toOption =
      (tree.folder? folder).bind fun place => tree.documentAt? reader place name := by
  rw [toOption_readDocumentBy, Path.format?_join written isName, text?,
    tree.read?_join written isName]
  unfold documentAt? textAt?
  cases tree.folder? folder with
  | none => cases Path.formatOfName? name <;> rfl
  | some place => rfl

end Reading

section Formed

variable {tree : FileTree} (formed : tree.WellFormed) {folder : String} (written : folder ≠ "")
  {place : List String} (leads : tree.folder? folder = some place)
include formed written leads

/-- What the documents directly in a folder say is told name by name. -/
theorem definitionsBy_eq {α : Type} (reader : Format → String → Option α) :
    tree.definitionsBy reader folder =
      (tree.sortedNames folder).filterMap (tree.documentAt? reader place) := by
  unfold definitionsBy documents
  rw [List.filterMap_filter, List.filterMap_map]
  apply List.filterMap_congr
  intro name member
  have isName := (formed.below ((tree.mem_sortedNames_iff leads name).1 member)).1
  have reads := tree.readDocumentBy_join written reader isName
  have file := tree.read?_join written isName
  rw [leads, Option.bind_some] at reads file
  dsimp only [Function.comp]
  rw [reads, isFile, file, Path.format?_join written isName]
  unfold documentAt? textAt?
  cases tree.fileAt? (place ++ [name]) with
  | none => cases Path.formatOfName? name <;> rfl
  | some bytes => cases Path.formatOfName? name <;> rfl

end Formed

end FileTree

/-! ## Packages at places -/

namespace FileTree

variable (readers : Readers) (tree : FileTree)

/-- The manifest of the package in a folder: the first one where a file stands there, the second one
otherwise. -/
def manifestAt? (place : List String) : Option Manifest :=
  if (tree.fileAt? (place ++ ["mod.json"])).isSome then
    tree.documentAt? readers.manifest place "mod.json"
  else tree.documentAt? readers.manifest place "mod.toml"

/-- The phrases of the package in a folder; none when they cannot be read. -/
def phrasesAt (place : List String) (language : String) : Phrasebook :=
  ((tree.textAt? (place ++ ["localization"] ++ [language ++ ".json"])).bind
    readers.phrases).getD .empty

/-- Definitions are what the documents directly in a folder read as, in ascending order of the names
of all those documents. -/
def Yields {α : Type} (reader : Format → String → Option α) (place : List String)
    (definitions : List α) : Prop :=
  ∃ names, Text.Ascending names ∧ List.Forall₂ (tree.Reads reader place) names definitions ∧
    ∀ name content, tree.Reads reader place name content → name ∈ names

/-- Definitions that a folder yields are told name by name. -/
theorem Yields.exists_names {tree : FileTree} {α : Type} {reader : Format → String → Option α}
    {place : List String} {definitions : List α} (yields : tree.Yields reader place definitions) :
    ∃ names, Text.Ascending names ∧
      (∀ name, name ∈ names ↔ (tree.documentAt? reader place name).isSome) ∧
      definitions = names.filterMap (tree.documentAt? reader place) := by
  obtain ⟨names, ascending, read, all⟩ := yields
  have told := eq_filterMap_of_forall₂
    (read.imp fun name content => (tree.documentAt?_eq_some_iff reader place name content).2)
  refine ⟨names, ascending, fun name => ⟨told.1 name, fun given => ?_⟩, told.2⟩
  obtain ⟨content, said⟩ := Option.isSome_iff_exists.1 given
  exact all name content ((tree.documentAt?_eq_some_iff reader place name content).1 said)

end FileTree

/-- A package is what readers find in the folder at a place. -/
structure Package.LoadedFrom (package : Package) (readers : Readers) (tree : FileTree)
    (language folder : String) (place : List String) : Prop where
  /-- It has the manifest and the phrases of the folder. -/
  manifest : ∃ manifest, tree.manifestAt? readers place = some manifest ∧
    package.info = .ofManifest manifest folder (tree.phrasesAt readers place language)
  /-- It has the items of the documents in the folder for items. -/
  items : tree.Yields readers.item (place ++ ["items"]) package.items
  /-- It has the recipes of the documents in the folder for recipes. -/
  recipes : tree.Yields readers.recipe (place ++ ["recipes"]) package.recipes
  /-- It has the quests of the documents in the folder for quests. -/
  quests : tree.Yields readers.quest (place ++ ["quests"]) package.quests

namespace FileTree

/-- The package in a folder that has a manifest. -/
def packageWith (readers : Readers) (tree : FileTree) (language folder : String)
    (manifest : Manifest) : Package :=
  { info := .ofManifest manifest folder (tree.phrasesBy readers.phrases folder language)
    items := tree.definitionsBy readers.item (Path.join folder "items")
    recipes := tree.definitionsBy readers.recipe (Path.join folder "recipes")
    quests := tree.definitionsBy readers.quest (Path.join folder "quests") }

/-- The package in a folder, if it can be loaded. -/
def package? (readers : Readers) (tree : FileTree) (language folder : String) : Option Package :=
  (tree.loadPackageBy readers language folder).toOption

/-- A package is loaded where the first manifest that is a file can be read. -/
theorem loadPackageBy_toOption (readers : Readers) (tree : FileTree) (language folder : String) :
    (tree.loadPackageBy readers language folder).toOption =
      ((manifestNames.map (Path.join folder)).find? tree.isFile).bind fun path =>
        (readDocumentBy readers.manifest tree path).toOption.map
          (tree.packageWith readers language folder) := by
  unfold loadPackageBy
  cases (manifestNames.map (Path.join folder)).find? tree.isFile with
  | none => rfl
  | some path =>
    rw [Option.bind_some]
    dsimp only
    cases readDocumentBy readers.manifest tree path with
    | error cause => rfl
    | ok manifest => rfl

section Formed

variable {tree : FileTree} (formed : tree.WellFormed) {folder : String} (written : folder ≠ "")
  {place : List String} (leads : tree.folder? folder = some place)
include formed written leads

/-- The definitions in a folder below another are those of the documents there. -/
theorem yields_definitionsBy {α : Type} (reader : Format → String → Option α) {kind : String}
    (isName : Path.IsName kind) :
    tree.Yields reader (place ++ [kind]) (tree.definitionsBy reader (Path.join folder kind)) := by
  have below := tree.folder?_join written isName
  have written' := (Path.isAbsolute_join written isName.whole).2
  rw [leads, Option.bind_some] at below
  have inFolder (name : String) (content : α)
      (read : tree.Reads reader (place ++ [kind]) name content) :
      tree.enter? (place ++ [kind]) = some (place ++ [kind]) :=
    (formed.below read.there).2
  cases entered : tree.enter? (place ++ [kind]) with
  | none =>
    rw [entered] at below
    have nothing : tree.definitionsBy reader (Path.join folder kind) = [] := by
      unfold definitionsBy documents
      rw [tree.sortedNames_of_none below]
      rfl
    rw [nothing]
    refine ⟨[], List.Pairwise.nil, .nil, fun name content read => ?_⟩
    have there := inFolder name content read
    rw [entered] at there
    cases there
  | some there =>
    obtain rfl := tree.eq_of_enter? entered
    rw [entered] at below
    rw [definitionsBy_eq formed written' below]
    refine ⟨(tree.sortedNames (Path.join folder kind)).filter fun name =>
      (tree.documentAt? reader (place ++ [kind]) name).isSome,
      (tree.ascending_sortedNames _).sublist List.filter_sublist, ?_, fun name content read => ?_⟩
    · exact forall₂_filterMap fun name _ content =>
        (tree.documentAt?_eq_some_iff reader _ name content).1
    · rw [List.mem_filter, (tree.documentAt?_eq_some_iff reader _ name content).2 read]
      exact ⟨(tree.mem_sortedNames_iff below name).2 read.there, rfl⟩

/-- The phrases of a package are those at their place. -/
theorem phrasesBy_eq (readers : Readers) {language : String} (whole : '/' ∉ language.toList) :
    tree.phrasesBy readers.phrases folder language = tree.phrasesAt readers place language := by
  have isName : Path.IsName "localization" := by decide
  have written' := (Path.isAbsolute_join written isName.whole).2
  have reads := tree.read?_join written' (Path.isName_json whole)
  have below := tree.folder?_join written isName
  rw [leads, Option.bind_some] at below
  rw [below] at reads
  have same : tree.read? (Path.join (Path.join folder "localization") (language ++ ".json")) =
      tree.fileAt? (place ++ ["localization"] ++ [language ++ ".json"]) := by
    rw [reads]
    cases entered : tree.enter? (place ++ ["localization"]) with
    | some there =>
      obtain rfl := tree.eq_of_enter? entered
      rfl
    | none =>
      cases file : tree.fileAt? (place ++ ["localization"] ++ [language ++ ".json"]) with
      | none => rfl
      | some bytes =>
        have there := (formed.below (tree.at?_of_fileAt? (by rw [file]; rfl))).2
        rw [entered] at there
        cases there
  unfold phrasesBy phrasesAt text? textAt?
  simp only [same]

end Formed

section Reading

variable (tree : FileTree) {folder : String} (written : folder ≠ "")
include written

/-- A package is loaded where there is a manifest in a folder. -/
theorem package?_eq (readers : Readers) (language : String) :
    tree.package? readers language folder = (tree.folder? folder).bind fun place =>
      (tree.manifestAt? readers place).map (tree.packageWith readers language folder) := by
  have first : Path.IsName "mod.json" := by decide
  have second : Path.IsName "mod.toml" := by decide
  rw [package?, loadPackageBy_toOption, manifestNames, List.map_cons, List.map_cons, List.map_nil,
    List.find?_cons, List.find?_cons]
  unfold isFile
  rw [tree.read?_join written first, tree.read?_join written second]
  have reads {name : String} (isName : Path.IsName name) :=
    tree.readDocumentBy_join written readers.manifest isName
  cases leads : tree.folder? folder with
  | none => rfl
  | some place =>
    simp only [leads, Option.bind_some] at reads ⊢
    unfold manifestAt?
    cases there : (tree.fileAt? (place ++ ["mod.json"])).isSome with
    | true =>
      rw [if_pos rfl, ← reads first]
      rfl
    | false =>
      rw [if_neg Bool.false_ne_true]
      cases there' : (tree.fileAt? (place ++ ["mod.toml"])).isSome with
      | true =>
        rw [← reads second]
        rfl
      | false =>
        have nothing := Option.isNone_iff_eq_none.1 (Option.isSome_eq_false_iff.1 there')
        rw [tree.documentAt?_of_none _ nothing]
        rfl

end Reading

end FileTree

end Modpack
