import Modpack.Proofs.PackageFolders

/-!
# Package folders load apart

Whatever readers take the texts, the packages in a folder are told name by name, each by what stands
below its own place. So where two trees have the same everywhere but at one place, they load the
same but for what stands there: a changed package folder is its own package and no other, and a
changed document in a package is its own definition and no other.
-/
namespace Modpack

/-! ## The packages in a folder -/

namespace FileTree

/-- A path that leads to a folder is not empty. -/
theorem written_of_folder? {tree : FileTree} {path : String} {place : List String}
    (leads : tree.folder? path = some place) : path ≠ "" := by
  rintro rfl
  cases leads

/-- What stands at the end of a path is a folder when the path leads to a folder. -/
theorem isFolder_eq (tree : FileTree) (path : String) :
    tree.isFolder path = (tree.folder? path).isSome := by
  unfold isFolder folder?
  cases tree.find? path with
  | none => rfl
  | some found =>
    obtain ⟨place, node⟩ := found
    cases node with
    | file bytes => rfl
    | folder => rfl

/-- The package under a name in the folder at a place. -/
def packageAt? (readers : Readers) (tree : FileTree) (language root : String)
    (place : List String) (name : String) : Option Package :=
  (tree.enter? (place ++ [name])).bind fun folder =>
    (tree.manifestAt? readers folder).map (tree.packageWith readers language (Path.join root name))

section Root

variable {readers : Readers} {tree : FileTree} {root : String} {place : List String}
  (leads : tree.folder? root = some place)
include leads

/-- A joined path loads the package under the name in the folder. -/
theorem package?_join {name : String} (isName : Path.IsName name) (language : String) :
    tree.package? readers language (Path.join root name) =
      tree.packageAt? readers language root place name := by
  have written := written_of_folder? leads
  rw [tree.package?_eq (Path.isAbsolute_join written isName.whole).2,
    tree.folder?_join written isName, leads, Option.bind_some, packageAt?]

omit leads in
/-- There is a package under the name of a folder with a good manifest. -/
theorem packageAt?_isSome_iff (language : String) (name : String) :
    (tree.packageAt? readers language root place name).isSome ↔
      tree.at? (place ++ [name]) = some .folder ∧
        (tree.manifestAt? readers (place ++ [name])).isSome := by
  unfold packageAt? enter?
  cases tree.at? (place ++ [name]) with
  | none => simp
  | some node => cases node <;> simp

/-- Each name with a package is listed. -/
theorem mem_sortedNames_of_packageAt? {language name : String}
    (given : (tree.packageAt? readers language root place name).isSome) :
    name ∈ tree.sortedNames root := by
  have folder := ((packageAt?_isSome_iff language name).1 given).1
  exact (tree.mem_sortedNames_iff leads name).2 (by rw [folder]; rfl)

variable (formed : tree.WellFormed)
include formed

/-- The packages in a folder are told name by name. -/
theorem loadPackagesBy_eq (language : String) :
    tree.loadPackagesBy readers language root =
      (tree.sortedNames root).filterMap (tree.packageAt? readers language root place) := by
  unfold loadPackagesBy
  rw [List.filterMap_filter, List.filterMap_map]
  apply List.filterMap_congr
  intro name member
  have isName := (formed.below ((tree.mem_sortedNames_iff leads name).1 member)).1
  have joined : tree.package? readers language (Path.join root name) = _ :=
    package?_join leads isName language
  rw [package?] at joined
  dsimp only [Function.comp]
  rw [isFolder_eq, tree.folder?_join (written_of_folder? leads) isName, leads, Option.bind_some,
    joined]
  unfold packageAt?
  cases tree.enter? (place ++ [name]) with
  | none => rfl
  | some there => rfl

omit leads in
/-- Only names have packages. -/
theorem isName_of_packageAt? {language name : String}
    (given : (tree.packageAt? readers language root place name).isSome) : Path.IsName name := by
  have folder := ((packageAt?_isSome_iff language name).1 given).1
  exact (formed.below (by rw [folder]; rfl)).1

/-- A package is what the folder under its name says. -/
theorem loadedFrom_of_packageAt? {language name : String} (whole : '/' ∉ language.toList)
    {package : Package} (given : tree.packageAt? readers language root place name = some package) :
    package.LoadedFrom readers tree language (Path.join root name) (place ++ [name]) := by
  have isName := isName_of_packageAt? formed (by rw [given]; rfl)
  have written := written_of_folder? leads
  have written' := (Path.isAbsolute_join written isName.whole).2
  obtain ⟨there, entered, loaded⟩ := Option.bind_eq_some_iff.1 given
  obtain rfl := tree.eq_of_enter? entered
  obtain ⟨manifest, read, rfl⟩ := Option.map_eq_some_iff.1 loaded
  have below : tree.folder? (Path.join root name) = some (place ++ [name]) := by
    rw [tree.folder?_join written isName, leads, Option.bind_some, entered]
  have yields {α : Type} (reader : Format → String → Option α) {kind : String}
      (isName : Path.IsName kind) := yields_definitionsBy formed written' below reader isName
  refine ⟨⟨manifest, read, ?_⟩, yields _ (by decide), yields _ (by decide), yields _ (by decide)⟩
  rw [packageWith, phrasesBy_eq formed written' below readers whole]

end Root

end FileTree

/-! ## Trees that differ at one place -/

/-- Two trees have the same at every place that is not at or below a changed one. -/
def FileTree.SameBeside (left right : FileTree) (changed : List String) : Prop :=
  ∀ place, ¬changed <+: place → left.at? place = right.at? place

/-- The folders of a package that hold its definitions. -/
def definitionFolders : List String := ["items", "recipes", "quests"]

/-- Two packages have the same definitions. -/
structure Package.SameDefinitions (package package' : Package) : Prop where
  /-- They have the same items. -/
  items : package.items = package'.items
  /-- They have the same recipes. -/
  recipes : package.recipes = package'.recipes
  /-- They have the same quests. -/
  quests : package.quests = package'.quests

/-- What a document says in a folder, when it is about this folder. -/
def FileTree.changedDocument? {α : Type} (tree : FileTree) (reader : Format → String → Option α)
    (place : List String) (kind document folder : String) : Option α :=
  if folder = kind then tree.documentAt? reader (place ++ [folder]) document else none

/-- Two packages are the same but for a document in a folder of theirs. -/
structure Package.DifferAt (readers : Readers) (language : String) (place : List String)
    (kind document : String) (left right : FileTree) (package package' : Package) : Prop where
  /-- They have the same manifest. -/
  manifest : package.info.manifest = package'.info.manifest
  /-- They have the same folder. -/
  folder : package.info.folder = package'.info.folder
  /-- They have the same phrases when the document is not that of the phrases. -/
  phrases : ¬(kind = "localization" ∧ document = language ++ ".json") →
    package.info.phrases = package'.info.phrases
  /-- Their items differ by what the document says as an item. -/
  items : DifferBy
    (left.changedDocument? readers.item place kind document "items")
    (right.changedDocument? readers.item place kind document "items")
    package.items package'.items
  /-- Their recipes differ by what the document says as a recipe. -/
  recipes : DifferBy
    (left.changedDocument? readers.recipe place kind document "recipes")
    (right.changedDocument? readers.recipe place kind document "recipes")
    package.recipes package'.recipes
  /-- Their quests differ by what the document says as a quest. -/
  quests : DifferBy
    (left.changedDocument? readers.quest place kind document "quests")
    (right.changedDocument? readers.quest place kind document "quests")
    package.quests package'.quests

/-- What readers find in the folder at a place of two trees with one change. -/
structure FileTree.LoadsApart (readers : Readers) (left right : FileTree) (language root : String)
    (place : List String) : Prop where
  /-- What changes in one package folder changes no other package. -/
  packages : ∀ name, Path.IsName name → ∀ below,
    left.SameBeside right (place ++ [name] ++ below) →
    DifferBy (left.package? readers language (Path.join root name))
      (right.package? readers language (Path.join root name))
      (left.loadPackagesBy readers language root) (right.loadPackagesBy readers language root)
  /-- What changes beside the definitions of a package does not change these. -/
  definitions : ∀ name, Path.IsName name → ∀ part, part ∉ definitionFolders → ∀ below,
    left.SameBeside right (place ++ [name] ++ [part] ++ below) →
    ∀ package ∈ left.package? readers language (Path.join root name),
      ∀ package' ∈ right.package? readers language (Path.join root name),
        package.SameDefinitions package'
  /-- A changed document in a folder of a package changes nothing else in the package. -/
  documents : ∀ name, Path.IsName name → ∀ kind document,
    left.SameBeside right (place ++ [name] ++ [kind] ++ [document]) →
    Option.Rel (Package.DifferAt readers language (place ++ [name]) kind document left right)
      (left.package? readers language (Path.join root name))
      (right.package? readers language (Path.join root name))

/-- What stands under one name is not at or below another one. -/
theorem not_prefix_of_ne {place rest : List String} {name other : String} (apart : other ≠ name) :
    ¬(place ++ [name]) <+: (place ++ [other] ++ rest) := by
  rw [List.append_assoc, List.prefix_append_right_inj, List.singleton_append,
    List.cons_prefix_cons]
  exact fun ⟨same, _⟩ => apart same.symm

/-- What is no deeper than a place is not below it. -/
theorem not_prefix_of_length {changed place : List String} (apart : place ≠ changed)
    (short : place.length ≤ changed.length) : ¬changed <+: place := by
  intro within
  exact apart (within.eq_of_length (Nat.le_antisymm within.length_le short)).symm

section Alike

variable {readers : Readers} {left right : FileTree}

/-- What changes below a place changes at or below it. -/
theorem FileTree.SameBeside.above {place below : List String}
    (same : left.SameBeside right (place ++ below)) : left.SameBeside right place := by
  intro spot outside
  exact same spot fun within => outside ((List.prefix_append place below).trans within)

/-- A manifest is told by what stands directly in the folder. -/
theorem FileTree.manifestAt?_congr {place : List String}
    (same : ∀ name, left.at? (place ++ [name]) = right.at? (place ++ [name])) :
    left.manifestAt? readers place = right.manifestAt? readers place := by
  unfold manifestAt?
  have file : left.fileAt? (place ++ ["mod.json"]) = right.fileAt? (place ++ ["mod.json"]) := by
    unfold fileAt?
    rw [same]
  rw [file, documentAt?_congr _ (same "mod.json"), documentAt?_congr _ (same "mod.toml")]

/-- Phrases are told by what stands at the place of their document. -/
theorem FileTree.phrasesAt_congr {place : List String} {language : String}
    (same : left.at? (place ++ ["localization"] ++ [language ++ ".json"]) =
      right.at? (place ++ ["localization"] ++ [language ++ ".json"])) :
    left.phrasesAt readers place language = right.phrasesAt readers place language := by
  unfold phrasesAt textAt? fileAt?
  rw [same]

section Yields

variable {α : Type} {reader : Format → String → Option α} {place : List String}
  {first second : List α}

/-- Where the documents in a folder say the same, its definitions are the same. -/
theorem FileTree.Yields.eq_of_agree (yields : left.Yields reader place first)
    (yields' : right.Yields reader place second)
    (agree : ∀ name, left.documentAt? reader place name = right.documentAt? reader place name) :
    first = second := by
  obtain ⟨names, ascending, members, rfl⟩ := yields.exists_names
  obtain ⟨names', ascending', members', rfl⟩ := yields'.exists_names
  have same : names = names' := by
    apply ascending.eq_of_mem_iff ascending'
    intro name
    rw [members, members', agree]
  rw [same]
  exact List.filterMap_congr fun name _ => agree name

/-- Where all documents in a folder but one say the same, its definitions differ by what that one
says. -/
theorem FileTree.Yields.differBy (yields : left.Yields reader place first)
    (yields' : right.Yields reader place second) {name : String}
    (agree : ∀ other, other ≠ name →
      left.documentAt? reader place other = right.documentAt? reader place other) :
    DifferBy (left.documentAt? reader place name) (right.documentAt? reader place name)
      first second := by
  obtain ⟨names, ascending, members, rfl⟩ := yields.exists_names
  obtain ⟨names', ascending', members', rfl⟩ := yields'.exists_names
  exact differBy_of_agree ascending ascending' (fun name => (members name).2)
    (fun name => (members' name).2) agree

/-- The definitions in a folder differ by what a changed document says, if it is in this folder. -/
theorem FileTree.Yields.differBy_changed {kind document folder : String}
    (yields : left.Yields reader (place ++ [folder]) first)
    (yields' : right.Yields reader (place ++ [folder]) second)
    (same : left.SameBeside right (place ++ [kind] ++ [document])) :
    DifferBy (left.changedDocument? reader place kind document folder)
      (right.changedDocument? reader place kind document folder) first second := by
  have agree (other : String) (apart : ¬(folder = kind ∧ other = document)) :
      left.documentAt? reader (place ++ [folder]) other =
        right.documentAt? reader (place ++ [folder]) other := by
    apply documentAt?_congr
    apply same
    apply not_prefix_of_length
    · simpa using apart
    · simp
  unfold changedDocument?
  by_cases here : folder = kind
  · rw [if_pos here, if_pos here]
    exact yields.differBy yields' fun other apart => agree other fun both => apart both.2
  · rw [if_neg here, if_neg here, yields.eq_of_agree yields' fun other =>
      agree other fun both => here both.1]
    exact .refl none second rfl

end Yields

section Packages

variable {language folder : String} {place : List String} {package package' : Package}
  (loaded : package.LoadedFrom readers left language folder place)
  (loaded' : package'.LoadedFrom readers right language folder place)
include loaded loaded'

/-- Packages whose documents stand alike have the same definitions. -/
theorem Package.LoadedFrom.sameDefinitions
    (same : ∀ kind ∈ definitionFolders, ∀ name,
      left.at? (place ++ [kind] ++ [name]) = right.at? (place ++ [kind] ++ [name])) :
    package.SameDefinitions package' := by
  have agree {α : Type} (reader : Format → String → Option α) {kind : String}
      (within : kind ∈ definitionFolders) (name : String) :
      left.documentAt? reader (place ++ [kind]) name =
        right.documentAt? reader (place ++ [kind]) name :=
    FileTree.documentAt?_congr reader (same kind within name)
  exact ⟨loaded.items.eq_of_agree loaded'.items (agree _ (by decide)),
    loaded.recipes.eq_of_agree loaded'.recipes (agree _ (by decide)),
    loaded.quests.eq_of_agree loaded'.quests (agree _ (by decide))⟩

/-- Packages with the same manifest are told by the same one. -/
theorem Package.LoadedFrom.exists_manifest
    (same : left.manifestAt? readers place = right.manifestAt? readers place) :
    ∃ manifest, package.info = .ofManifest manifest folder (left.phrasesAt readers place language) ∧
      package'.info = .ofManifest manifest folder (right.phrasesAt readers place language) := by
  obtain ⟨manifest, read, made⟩ := loaded.manifest
  obtain ⟨manifest', read', made'⟩ := loaded'.manifest
  rw [same, read', Option.some_inj] at read
  rw [read] at made'
  exact ⟨manifest, made, made'⟩

/-- Where the same stands below the place of a package, the package is the same. -/
theorem Package.LoadedFrom.eq_of_same
    (same : ∀ name rest, left.at? (place ++ [name] ++ rest) = right.at? (place ++ [name] ++ rest)) :
    package = package' := by
  have direct (name : String) : left.at? (place ++ [name]) = right.at? (place ++ [name]) := by
    simpa using same name []
  have definitions := loaded.sameDefinitions loaded' fun kind _ name => same kind [name]
  obtain ⟨manifest, made, made'⟩ :=
    loaded.exists_manifest loaded' (FileTree.manifestAt?_congr direct)
  have phrases : left.phrasesAt readers place language = right.phrasesAt readers place language :=
    FileTree.phrasesAt_congr (same _ _)
  have info : package.info = package'.info := by rw [made, made', phrases]
  cases package
  cases package'
  congr 1
  · exact definitions.items
  · exact definitions.recipes
  · exact definitions.quests

/-- Packages differ by what a changed document says. -/
theorem Package.LoadedFrom.differAt {kind document : String}
    (same : left.SameBeside right (place ++ [kind] ++ [document])) :
    package.DifferAt readers language place kind document left right package' := by
  have direct (name : String) : left.at? (place ++ [name]) = right.at? (place ++ [name]) := by
    apply same
    apply not_prefix_of_length
    · simp
    · simp
  obtain ⟨manifest, made, made'⟩ :=
    loaded.exists_manifest loaded' (FileTree.manifestAt?_congr direct)
  refine ⟨?_, ?_, fun apart => ?_, loaded.items.differBy_changed loaded'.items same,
    loaded.recipes.differBy_changed loaded'.recipes same,
    loaded.quests.differBy_changed loaded'.quests same⟩
  · rw [made, made']
    rfl
  · rw [made, made']
    rfl
  · rw [made, made']
    apply FileTree.phrasesAt_congr
    apply same
    apply not_prefix_of_length
    · intro here
      apply apart
      simpa [eq_comm] using here
    · simp

end Packages

section Roots

variable {root language : String} {place : List String} (formed : left.WellFormed)
  (formed' : right.WellFormed) (leads : left.folder? root = some place)
  (leads' : right.folder? root = some place) (whole : '/' ∉ language.toList)
include formed formed' leads leads' whole

/-- Where a folder and its manifest are the same, there is a package in both trees or in none. -/
theorem FileTree.packageAt?_rel {name : String} {related : Package → Package → Prop}
    (here : left.at? (place ++ [name]) = right.at? (place ++ [name]))
    (manifest : left.manifestAt? readers (place ++ [name]) =
      right.manifestAt? readers (place ++ [name]))
    (each : ∀ package package' : Package,
      package.LoadedFrom readers left language (Path.join root name) (place ++ [name]) →
      package'.LoadedFrom readers right language (Path.join root name) (place ++ [name]) →
      related package package') :
    Option.Rel related (left.packageAt? readers language root place name)
      (right.packageAt? readers language root place name) := by
  have both : (left.packageAt? readers language root place name).isSome ↔
      (right.packageAt? readers language root place name).isSome := by
    rw [packageAt?_isSome_iff, packageAt?_isSome_iff, here, manifest]
  cases found : left.packageAt? readers language root place name with
  | none =>
    cases found' : right.packageAt? readers language root place name with
    | none => exact .none
    | some package' =>
      rw [found, found'] at both
      cases both.2 rfl
  | some package =>
    rw [found] at both
    obtain ⟨package', found'⟩ := Option.isSome_iff_exists.1 (both.1 rfl)
    rw [found']
    exact .some (each package package' (loadedFrom_of_packageAt? leads formed whole found)
      (loadedFrom_of_packageAt? leads' formed' whole found'))

/-- A changed folder changes no package but its own. -/
theorem FileTree.packageAt?_of_ne {name other : String}
    (same : left.SameBeside right (place ++ [name])) (apart : other ≠ name) :
    left.packageAt? readers language root place other =
      right.packageAt? readers language root place other := by
  have inside (part : String) (rest : List String) :
      left.at? (place ++ [other] ++ [part] ++ rest) =
        right.at? (place ++ [other] ++ [part] ++ rest) := by
    rw [List.append_assoc]
    exact same _ (not_prefix_of_ne apart)
  have here : left.at? (place ++ [other]) = right.at? (place ++ [other]) := by
    simpa using same (place ++ [other] ++ []) (not_prefix_of_ne apart)
  have manifest : left.manifestAt? readers (place ++ [other]) =
      right.manifestAt? readers (place ++ [other]) :=
    manifestAt?_congr fun part => by simpa using inside part []
  have related := packageAt?_rel formed formed' leads leads' whole here manifest
    fun _ _ loaded loaded' => loaded.eq_of_same loaded' inside
  generalize left.packageAt? readers language root place other = package? at related ⊢
  generalize right.packageAt? readers language root place other = package?' at related ⊢
  cases related with
  | none => rfl
  | some agree => rw [agree]

/-- Trees with one change load apart. -/
theorem FileTree.loadsApart : FileTree.LoadsApart readers left right language root place where
  packages name isName below same := by
    rw [package?_join leads isName, package?_join leads' isName, loadPackagesBy_eq leads formed,
      loadPackagesBy_eq leads' formed']
    exact differBy_of_agree (left.ascending_sortedNames root) (right.ascending_sortedNames root)
      (fun _ => mem_sortedNames_of_packageAt? leads)
      (fun _ => mem_sortedNames_of_packageAt? leads')
      (fun _ => packageAt?_of_ne formed formed' leads leads' whole same.above)
  definitions name isName part outside below same package given package' given' := by
    rw [package?_join leads isName] at given
    rw [package?_join leads' isName] at given'
    have loaded := loadedFrom_of_packageAt? leads formed whole given
    have loaded' := loadedFrom_of_packageAt? leads' formed' whole given'
    apply loaded.sameDefinitions loaded'
    intro kind within file
    apply same.above
    apply not_prefix_of_ne
    rintro rfl
    exact outside within
  documents name isName kind document same := by
    rw [package?_join leads isName, package?_join leads' isName]
    -- Manifests stand less deep than the document that changed, whatever its folder is.
    have shallow (spot : List String) (short : spot.length < place.length + 3) :
        left.at? spot = right.at? spot := by
      apply same
      apply not_prefix_of_length
      · rintro rfl
        simp at short
      · simp
        omega
    apply packageAt?_rel formed formed' leads leads' whole
    · apply shallow
      simp
    · apply manifestAt?_congr
      intro part
      apply shallow
      simp
    · intro package package' loaded loaded'
      exact loaded.differAt loaded' same

end Roots

end Alike

/-! ## Loading a folder of packages -/

/-- What the packages in a folder load as, whatever readers take the texts; those of the program are
one case. The order of listings does not matter; there is one package for each folder with a good
manifest, in ascending order of the names of the folders, and it is what its folder says; and what
changes at one place changes nothing that stands elsewhere. -/
theorem packages_load_apart (readers : Readers) {tree : FileTree} (formed : tree.WellFormed)
    {language : String} (whole : '/' ∉ language.toList) {root : String} {place : List String}
    (leads : tree.folder? root = some place) :
    (∀ other : FileTree, other.nodes.entries.Perm tree.nodes.entries →
      other.workingFolder = tree.workingFolder →
      other.loadPackagesBy readers language root = tree.loadPackagesBy readers language root) ∧
    (∃ folders, Text.Ascending folders ∧
      (∀ name, name ∈ folders ↔ tree.at? (place ++ [name]) = some .folder ∧
        (tree.manifestAt? readers (place ++ [name])).isSome) ∧
      List.Forall₂ (fun name package =>
          package.LoadedFrom readers tree language (Path.join root name) (place ++ [name]))
        folders (tree.loadPackagesBy readers language root)) ∧
    ∀ other : FileTree, other.WellFormed → other.folder? root = some place →
      FileTree.LoadsApart readers tree other language root place := by
  refine ⟨fun other same working => ?_, ?_, fun other formed' leads' => ?_⟩
  · rw [FileTree.loadPackagesBy_congr readers (FileTree.at?_of_perm same) working]
  · refine ⟨(tree.sortedNames root).filter fun name =>
      (tree.packageAt? readers language root place name).isSome, ?_, fun name => ?_, ?_⟩
    · exact (tree.ascending_sortedNames root).sublist List.filter_sublist
    · rw [List.mem_filter, ← FileTree.packageAt?_isSome_iff language name]
      exact ⟨fun both => both.2,
        fun given => ⟨FileTree.mem_sortedNames_of_packageAt? leads given, given⟩⟩
    · rw [FileTree.loadPackagesBy_eq leads formed]
      exact forall₂_filterMap fun name _ package given =>
        FileTree.loadedFrom_of_packageAt? leads formed whole given
  · exact FileTree.loadsApart formed formed' leads leads' whole

/-- A folder of packages: gear with a manifest and two items, and pots without a manifest. -/
def shelf : FileTree where
  nodes := ⟨[(["mods"], .folder), (["mods", "pots"], .folder), (["mods", "gear"], .folder),
    (["mods", "gear", "items"], .folder),
    (["mods", "gear", "items", "hat.json"], .file "\x7b\"id\": \"hat\"\x7d".toUTF8),
    (["mods", "gear", "items", "cap.toml"], .file "id = \"cap\"".toUTF8),
    (["mods", "gear", "mod.json"], .file "\x7b\"id\": \"gear\"\x7d".toUTF8)], by decide⟩
  workingFolder := []

/-- The same folder with a hat that cannot be read. -/
def spoiltShelf : FileTree :=
  { shelf with
    nodes := shelf.nodes.insert ["mods", "gear", "items", "hat.json"] (.file "\x7b".toUTF8) }

/-- A hat that cannot be read is left out of the items of its package, and nothing else is. -/
theorem spoilt_hat_is_left_out :
    shelf.WellFormed ∧ '/' ∉ "en".toList ∧ shelf.folder? "mods" = some ["mods"] ∧
      ∃ gear gear' hat before after,
        (shelf.loadPackage "en" "mods/gear").toOption = some gear ∧
        (spoiltShelf.loadPackage "en" "mods/gear").toOption = some gear' ∧ hat.id = "hat" ∧
        gear.items = before ++ [hat] ++ after ∧ gear'.items = before ++ after := by
  have formed : shelf.WellFormed := by decide +kernel
  have whole : '/' ∉ "en".toList := by decide
  have leads : shelf.folder? "mods" = some ["mods"] := by decide +kernel
  obtain ⟨gear, loads⟩ : ∃ gear, (shelf.loadPackage "en" "mods/gear").toOption = some gear :=
    Option.isSome_iff_exists.1 (by decide +kernel)
  obtain ⟨gear', loads'⟩ :
      ∃ gear', (spoiltShelf.loadPackage "en" "mods/gear").toOption = some gear' :=
    Option.isSome_iff_exists.1 (by decide +kernel)
  obtain ⟨hat, said, called⟩ : ∃ hat, shelf.documentAt? Readers.ofDocuments.item
      ["mods", "gear", "items"] "hat.json" = some hat ∧ hat.id = "hat" :=
    Option.map_eq_some_iff.1 (by decide +kernel)
  have silent : spoiltShelf.documentAt? Readers.ofDocuments.item
      ["mods", "gear", "items"] "hat.json" = none :=
    Option.isNone_iff_eq_none.1 (by decide +kernel)
  have beside : shelf.SameBeside spoiltShelf ["mods", "gear", "items", "hat.json"] := by
    intro place outside
    have apart : ["mods", "gear", "items", "hat.json"] ≠ place := by
      rintro rfl
      exact outside (List.prefix_refl _)
    unfold FileTree.at? spoiltShelf
    rw [Dict.get?_insert, if_neg apart]
  have apart := (packages_load_apart .ofDocuments formed whole leads).2.2 spoiltShelf
    (by decide +kernel) (by decide +kernel)
  have differ := apart.documents "gear" (by decide) "items" "hat.json" beside
  have joined : Path.join "mods" "gear" = "mods/gear" := by decide +kernel
  rw [joined, FileTree.package?, FileTree.package?] at differ
  change Option.Rel _ (shelf.loadPackage "en" "mods/gear").toOption
    (spoiltShelf.loadPackage "en" "mods/gear").toOption at differ
  rw [loads, loads'] at differ
  obtain ⟨differ⟩ := differ
  obtain ⟨before, after, items, items'⟩ := differ.items
  refine ⟨formed, whole, leads, gear, gear', hat, before, after, loads, loads', called, ?_, ?_⟩
  · rw [items, FileTree.changedDocument?, if_pos rfl]
    exact congrArg (fun own : Option ItemDefinition => before ++ own.toList ++ after) said
  · rw [items', FileTree.changedDocument?, if_pos rfl]
    refine (congrArg (fun own : Option ItemDefinition => before ++ own.toList ++ after)
      silent).trans ?_
    rw [Option.toList_none, List.append_nil]

end Modpack
