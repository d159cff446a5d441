import Modpack.Document.Value

/-!
# Paths

A path is a text whose parts are separated by slashes. Joining keeps both parts as they are
written and adds a slash only where one is missing. The last part that names a file decides the
notation of a document.
-/
namespace Modpack.Path

/-- The parts of a path between slashes, empty ones included. -/
def segments (path : String) : List String :=
  (path.toList.splitOn '/').map String.ofList

/-- Whether a path starts at the root of all files. -/
def isAbsolute (path : String) : Bool :=
  path.toList.head? = some '/'

/-- A path as seen from a folder. An absolute path replaces the folder. -/
def join (folder path : String) : String :=
  if isAbsolute path then path
  else if folder = "" ∨ folder.toList.getLast? = some '/' then folder ++ path
  else folder ++ "/" ++ path

/-- The name of the file or folder a path leads to; a path that ends by going up has none. -/
def fileName? (path : String) : Option String :=
  match ((segments path).filter fun segment => segment ≠ "" ∧ segment ≠ ".").getLast? with
  | some name => if name = ".." then none else some name
  | none => none

/-- What follows the last point of a name; a name without a point, or with its only point in
front, has no extension. -/
def extensionOf? (name : String) : Option String :=
  let letters := name.toList.reverse
  let extension := (letters.takeWhile (· ≠ '.')).reverse
  match letters.dropWhile (· ≠ '.') with
  | _ :: _ :: _ => some (String.ofList extension)
  | _ => none

/-- The notation of the document at a path, told by its extension. -/
def format? (path : String) : Option Format :=
  match (fileName? path).bind extensionOf? with
  | some "json" => some .json
  | some "toml" => some .toml
  | _ => none

end Modpack.Path
