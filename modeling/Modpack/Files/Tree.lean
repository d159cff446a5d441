import Modpack.Dict
import Modpack.Files.Path

/-!
# Trees of files

A tree of files as a value: what stands at each place, a place being the list of names on the
way from the root. A path leads to a place by walking its parts, and every part walked through
must be a folder, also when the next part is empty, a point, or goes up. The order in which the
places stand in the tree is the order in which folders list them; nothing else depends on it.
-/
namespace Modpack

/-- What stands at a place. -/
inductive FileNode where
  /-- A file with its content. -/
  | file (bytes : ByteArray)
  /-- A folder. -/
  | folder

/-- Files and folders under one root. -/
structure FileTree where
  /-- What stands at each place but the root. -/
  nodes : Dict (List String) FileNode
  /-- The folder that relative paths start from. -/
  workingFolder : List String

namespace FileTree

/-- What stands at a place; the root is a folder. -/
def at? (tree : FileTree) (place : List String) : Option FileNode :=
  if place = [] then some .folder else tree.nodes.get? place

/-- Put a folder at a place where nothing stands. -/
def ensureFolder (tree : FileTree) (place : List String) : FileTree :=
  if (tree.at? place).isSome then tree
  else { tree with nodes := tree.nodes.insert place .folder }

/-- Put folders at a place and everywhere on the way to it. -/
def addFolder (tree : FileTree) (place : List String) : FileTree :=
  (List.range (place.length + 1)).foldl (fun tree count => tree.ensureFolder (place.take count))
    tree

/-- The tree with nothing but an empty working folder. -/
def empty (workingFolder : List String) : FileTree :=
  addFolder ⟨.empty, workingFolder⟩ workingFolder

/-- Put a file at a place, with folders on the way to it. -/
def addFile (tree : FileTree) (place : List String) (bytes : ByteArray) : FileTree :=
  let tree := tree.addFolder place.dropLast
  { tree with nodes := tree.nodes.insert place (.file bytes) }

/-- The place a path starts from. -/
def start (tree : FileTree) (path : String) : List String :=
  if Path.isAbsolute path then [] else tree.workingFolder

/-- The place a path means by its words alone. -/
def placeOf (tree : FileTree) (path : String) : List String :=
  (Path.segments path).foldl (fun place segment =>
    if segment = "" ∨ segment = "." then place
    else if segment = ".." then place.dropLast
    else place ++ [segment]) (tree.start path)

/-- Walk the parts of a path from a place. -/
def walk? (tree : FileTree) : List String → List String → Option (List String)
  | place, [] => some place
  | place, segment :: rest =>
    match tree.at? place with
    | some .folder =>
      if segment = "" ∨ segment = "." then tree.walk? place rest
      else if segment = ".." then tree.walk? place.dropLast rest
      else tree.walk? (place ++ [segment]) rest
    | _ => none

/-- What a path leads to, with its place. An empty path leads nowhere. -/
def find? (tree : FileTree) (path : String) : Option (List String × FileNode) :=
  if path = "" then none
  else (tree.walk? (tree.start path) (Path.segments path)).bind fun place =>
    (tree.at? place).map fun node => (place, node)

/-- Whether a path leads anywhere. -/
def contains (tree : FileTree) (path : String) : Bool :=
  (tree.find? path).isSome

/-- Whether a path leads to a folder. -/
def isFolder (tree : FileTree) (path : String) : Bool :=
  match tree.find? path with
  | some (_, .folder) => true
  | _ => false

/-- The content of the file a path leads to. -/
def read? (tree : FileTree) (path : String) : Option ByteArray :=
  match tree.find? path with
  | some (_, .file bytes) => some bytes
  | _ => none

/-- Whether a path leads to a file. -/
def isFile (tree : FileTree) (path : String) : Bool :=
  (tree.read? path).isSome

/-- The text of the file a path leads to; none when its content is no text. -/
def text? (tree : FileTree) (path : String) : Option String :=
  (tree.read? path).bind String.fromUTF8?

/-- The names in the folder a path leads to, as the folder lists them. -/
def names (tree : FileTree) (path : String) : List String :=
  match tree.find? path with
  | some (place, .folder) =>
    (tree.nodes.entries.filter fun entry => entry.1.dropLast = place).filterMap fun entry =>
      entry.1.getLast?
  | _ => []

/-- The names in a folder in ascending order. -/
def sortedNames (tree : FileTree) (path : String) : List String :=
  (tree.names path).mergeSort fun left right => decide (left ≤ right)

end FileTree

end Modpack
