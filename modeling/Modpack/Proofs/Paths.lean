import Modpack.Files.Tree

/-!
# Where joined paths lead

A name is a part of a path that goes down by one step. A path that is joined from the path of a
folder and a name leads to what stands under that name in the folder, and nowhere when the path does
not lead to a folder. So everything below a folder can be told from the place of the folder, however
its path is written.
-/
namespace Modpack

/-! ## Parts of paths -/

namespace Path

/-- A part of a path that goes down by one step. -/
structure IsName (name : String) : Prop where
  /-- It is one part. -/
  whole : '/' ∉ name.toList
  /-- It is not left out. -/
  written : name ≠ ""
  /-- It does not stay. -/
  leaves : name ≠ "."
  /-- It does not go up. -/
  down : name ≠ ".."

/-- A name is told from its letters. -/
theorem isName_iff (name : String) :
    IsName name ↔ '/' ∉ name.toList ∧ name ≠ "" ∧ name ≠ "." ∧ name ≠ ".." :=
  ⟨fun ⟨whole, written, leaves, down⟩ => ⟨whole, written, leaves, down⟩,
    fun ⟨whole, written, leaves, down⟩ => ⟨whole, written, leaves, down⟩⟩

instance (name : String) : Decidable (IsName name) :=
  decidable_of_iff _ (isName_iff name).symm

/-- A name is its only part. -/
theorem segments_of_whole {name : String} (whole : '/' ∉ name.toList) : segments name = [name] := by
  unfold segments
  rw [List.splitOn_eq_singleton whole, List.map_singleton, String.ofList_toList]

/-- The parts of two texts with a slash between them are those of both. -/
theorem segments_slash (front back : String) :
    segments (front ++ "/" ++ back) = segments front ++ segments back := by
  unfold segments
  have letters : (front ++ "/" ++ back).toList = front.toList ++ '/' :: back.toList := by
    simp
  rw [letters, List.splitOn_append_cons_self, List.map_append]

/-- A text that ends with a slash is one before a slash. -/
theorem exists_of_ends {folder : String} (ends : folder.toList.getLast? = some '/') :
    ∃ stem, folder = stem ++ "/" := by
  obtain ⟨letters, same⟩ := List.getLast?_eq_some_iff.1 ends
  refine ⟨String.ofList letters, ?_⟩
  apply String.toList_inj.1
  rw [same]
  simp

/-- A name is not absolute. -/
theorem isAbsolute_of_whole {name : String} (whole : '/' ∉ name.toList) :
    isAbsolute name = false := by
  unfold isAbsolute
  apply decide_eq_false
  intro first
  exact whole (List.mem_of_head? first)

/-- The parts of a folder's path and of that path joined with a name: up to the last step the same,
and the last step stays in the folder or goes to the name. -/
theorem segments_join {folder name : String} (written : folder ≠ "") (whole : '/' ∉ name.toList) :
    (∃ steps, segments folder = steps ++ [""] ∧ segments (join folder name) = steps ++ [name]) ∨
      segments (join folder name) = segments folder ++ [name] := by
  unfold join
  rw [isAbsolute_of_whole whole, if_neg Bool.false_ne_true]
  by_cases ends : folder.toList.getLast? = some '/'
  · left
    obtain ⟨stem, rfl⟩ := exists_of_ends ends
    refine ⟨segments stem, ?_, ?_⟩
    · have nothing := segments_slash stem ""
      rw [String.append_empty] at nothing
      exact nothing
    · rw [if_pos (.inr ends), segments_slash, segments_of_whole whole]
  · right
    have apart : ¬(folder = "" ∨ folder.toList.getLast? = some '/') := by
      rintro (nothing | slash)
      · exact written nothing
      · exact ends slash
    rw [if_neg apart, segments_slash, segments_of_whole whole]

/-- A joined path goes on from that of the folder. -/
theorem exists_join_eq (folder : String) {name : String} (whole : '/' ∉ name.toList) :
    ∃ rest, join folder name = folder ++ rest := by
  unfold join
  rw [isAbsolute_of_whole whole, if_neg Bool.false_ne_true]
  split
  · exact ⟨name, rfl⟩
  · exact ⟨"/" ++ name, String.append_assoc⟩

/-- A joined path is absolute when that of the folder is, and it is not empty. -/
theorem isAbsolute_join {folder name : String} (written : folder ≠ "")
    (whole : '/' ∉ name.toList) :
    isAbsolute (join folder name) = isAbsolute folder ∧ join folder name ≠ "" := by
  obtain ⟨rest, same⟩ := exists_join_eq folder whole
  have letters : folder.toList ≠ [] := by
    intro nothing
    exact written (String.toList_inj.1 nothing)
  rw [same]
  constructor
  · unfold isAbsolute
    obtain ⟨first, more, spelt⟩ := List.exists_cons_of_ne_nil letters
    rw [String.toList_append, spelt]
    rfl
  · intro nothing
    have both := congrArg String.toList nothing
    rw [String.toList_append] at both
    exact letters (List.append_eq_nil_iff.1 both).1

/-- A joined path names its last part. -/
theorem fileName?_join {folder name : String} (written : folder ≠ "") (isName : IsName name) :
    fileName? (join folder name) = some name := by
  have last (steps : List String) : ((steps ++ [name]).filter fun segment =>
      segment ≠ "" ∧ segment ≠ ".").getLast? = some name := by
    rw [List.filter_append]
    simp [isName.written, isName.leaves]
  unfold fileName?
  rcases segments_join written isName.whole with ⟨steps, _, same⟩ | same
  · rw [same, last]
    exact if_neg isName.down
  · rw [same, last]
    exact if_neg isName.down

/-- One part with an extension behind it is a name. -/
theorem isName_json {stem : String} (whole : '/' ∉ stem.toList) : IsName (stem ++ ".json") := by
  have last : (stem ++ ".json").toList.getLast? = some 'n' := by
    rw [String.toList_append, List.getLast?_append]
    rfl
  refine ⟨?_, ?_, ?_, ?_⟩
  · rw [String.toList_append, List.mem_append]
    rintro (within | behind)
    · exact whole within
    · exact absurd behind (by decide)
  · intro same
    rw [same] at last
    exact absurd last (by decide)
  · intro same
    rw [same] at last
    exact absurd last (by decide)
  · intro same
    rw [same] at last
    exact absurd last (by decide)

/-- The notation a name says. -/
def formatOfName? (name : String) : Option Format :=
  match extensionOf? name with
  | some "json" => some .json
  | some "toml" => some .toml
  | _ => none

/-- A joined path says the notation of its last part. -/
theorem format?_join {folder name : String} (written : folder ≠ "") (isName : IsName name) :
    format? (join folder name) = formatOfName? name := by
  unfold format?
  rw [fileName?_join written isName]
  rfl

/-- A name has an extension when something stands before its last point, and the extension after
it. -/
theorem extensionOf?_eq_some_iff (name extension : String) :
    extensionOf? name = some extension ↔
      '.' ∉ extension.toList ∧ ∃ stem, stem ≠ "" ∧ name = stem ++ "." ++ extension := by
  unfold extensionOf?
  constructor
  · intro found
    dsimp only at found
    split at found
    · rename_i point letter rest points
      obtain rfl := Option.some.inj found
      have both := List.takeWhile_append_dropWhile (p := (· ≠ '.')) (l := name.toList.reverse)
      have isPoint : point = '.' := by
        have first := List.head?_dropWhile_not (· ≠ '.') name.toList.reverse
        rw [points] at first
        simpa using first
      refine ⟨?_, String.ofList (letter :: rest).reverse, ?_, ?_⟩
      · rw [String.toList_ofList, List.mem_reverse]
        intro member
        have all := List.all_takeWhile (p := (· ≠ '.')) (l := name.toList.reverse)
        have letters := List.all_eq_true.1 all '.' member
        simp at letters
      · intro nothing
        have letters := congrArg String.toList nothing
        simp at letters
      · apply String.toList_inj.1
        rw [points, isPoint] at both
        have spelt := congrArg List.reverse both
        rw [List.reverse_append, List.reverse_cons, List.reverse_reverse] at spelt
        refine spelt.symm.trans ?_
        simp only [String.toList_append, String.toList_ofList]
        rfl
    · cases found
  · rintro ⟨plain, stem, written, rfl⟩
    have letters : (stem ++ "." ++ extension).toList.reverse =
        extension.toList.reverse ++ '.' :: stem.toList.reverse := by
      simp
    have before : ∀ letter ∈ extension.toList.reverse, decide (letter ≠ '.') = true := by
      intro letter member
      apply decide_eq_true
      rintro rfl
      exact plain (List.mem_reverse.1 member)
    obtain ⟨letter, rest, spelt⟩ : ∃ letter rest, stem.toList.reverse = letter :: rest := by
      apply List.exists_cons_of_ne_nil
      intro nothing
      apply written
      apply String.toList_inj.1
      exact List.reverse_eq_nil_iff.1 nothing
    dsimp only
    rw [letters, List.takeWhile_append_of_pos before, List.dropWhile_append_of_pos before, spelt]
    simp

/-- The extension of the names that say a notation. -/
def extensionOf : Format → String
  | .json => "json"
  | .toml => "toml"

/-- A name says a notation when it is something with a point and the extension of the notation. -/
theorem formatOfName?_eq_some_iff (name : String) (format : Format) :
    formatOfName? name = some format ↔
      ∃ stem, stem ≠ "" ∧ name = stem ++ "." ++ extensionOf format := by
  have plain : '.' ∉ (extensionOf format).toList := by cases format <;> decide
  have told : formatOfName? name = some format ↔ extensionOf? name = some (extensionOf format) := by
    unfold formatOfName?
    constructor
    · intro found
      split at found
      · rename_i extension
        rw [extension, ← Option.some.inj found]
        rfl
      · rename_i extension
        rw [extension, ← Option.some.inj found]
        rfl
      · cases found
    · intro extension
      rw [extension]
      cases format with
      | json => rfl
      | toml => rfl
  rw [told, extensionOf?_eq_some_iff, and_iff_right plain]

end Path

/-! ## Places -/

namespace FileTree

variable (tree : FileTree)

/-- A place, if a folder stands there. -/
def enter? (place : List String) : Option (List String) :=
  match tree.at? place with
  | some .folder => some place
  | _ => none

/-- The place of the folder a path leads to. -/
def folder? (path : String) : Option (List String) :=
  match tree.find? path with
  | some (place, .folder) => some place
  | _ => none

/-- Walking more parts is walking on. -/
theorem walk?_append (place first second : List String) :
    tree.walk? place (first ++ second) =
      (tree.walk? place first).bind fun middle => tree.walk? middle second := by
  induction first generalizing place with
  | nil => rfl
  | cons segment rest ih =>
    rw [List.cons_append, walk?, walk?]
    split
    · split
      · exact ih place
      · split
        · exact ih _
        · exact ih _
    · rfl

/-- A part that is left out stays in the folder. -/
theorem walk?_nothing (place : List String) : tree.walk? place [""] = tree.enter? place := by
  unfold walk? enter?
  cases tree.at? place with
  | none => rfl
  | some node =>
    cases node with
    | file bytes => rfl
    | folder => rfl

/-- A name goes on to what stands under it in the folder. -/
theorem walk?_name {name : String} (isName : Path.IsName name) (place : List String) :
    tree.walk? place [name] = (tree.enter? place).map fun place => place ++ [name] := by
  have apart : ¬(name = "" ∨ name = ".") := by
    rintro (nothing | stays)
    · exact isName.written nothing
    · exact isName.leaves stays
  unfold walk? enter?
  rw [if_neg apart, if_neg isName.down]
  cases tree.at? place with
  | none => rfl
  | some node =>
    cases node with
    | file bytes => rfl
    | folder => rfl

/-- A path leads to a folder where the walk along its parts ends in one. -/
theorem folder?_eq {path : String} (written : path ≠ "") :
    tree.folder? path = (tree.walk? (tree.start path) (Path.segments path)).bind tree.enter? := by
  unfold folder? find?
  rw [if_neg written]
  cases tree.walk? (tree.start path) (Path.segments path) with
  | none => rfl
  | some place =>
    rw [Option.bind_some, Option.bind_some]
    unfold enter?
    cases tree.at? place with
    | none => rfl
    | some node =>
      cases node with
      | file bytes => rfl
      | folder => rfl

/-- Who enters a folder is at its place. -/
theorem eq_of_enter? {place there : List String} (entered : tree.enter? place = some there) :
    place = there := by
  unfold enter? at entered
  split at entered
  · exact Option.some.inj entered
  · cases entered

/-- Who enters a folder is in a folder. -/
theorem enter?_enter? (place : List String) :
    (tree.enter? place).bind tree.enter? = tree.enter? place := by
  cases entered : tree.enter? place with
  | none => rfl
  | some there =>
    obtain rfl := tree.eq_of_enter? entered
    exact entered

/-- A joined path leads to what stands under the name in the folder, and nowhere when the path does
not lead to a folder. -/
theorem find?_join {folder name : String} (written : folder ≠ "") (isName : Path.IsName name) :
    tree.find? (Path.join folder name) = (tree.folder? folder).bind fun place =>
      (tree.at? (place ++ [name])).map fun node => (place ++ [name], node) := by
  have starts : tree.start (Path.join folder name) = tree.start folder := by
    unfold start
    rw [(Path.isAbsolute_join written isName.whole).1]
  have goesOn (place : Option (List String)) :
      ((place.bind fun middle => tree.walk? middle [name]).bind fun place =>
        (tree.at? place).map fun node => (place, node)) =
      (place.bind tree.enter?).bind fun place =>
        (tree.at? (place ++ [name])).map fun node => (place ++ [name], node) := by
    cases place with
    | none => rfl
    | some middle =>
      rw [Option.bind_some, Option.bind_some, tree.walk?_name isName]
      cases tree.enter? middle with
      | none => rfl
      | some there => rfl
  rw [find?, if_neg (Path.isAbsolute_join written isName.whole).2, starts, tree.folder?_eq written]
  rcases Path.segments_join written isName.whole with ⟨steps, same, joined⟩ | joined
  · rw [joined, same, walk?_append, walk?_append, goesOn]
    congr 1
    cases tree.walk? (tree.start folder) steps with
    | none => rfl
    | some place =>
      rw [Option.bind_some, Option.bind_some, walk?_nothing, enter?_enter?]
  · rw [joined, walk?_append, goesOn]

end FileTree

end Modpack
