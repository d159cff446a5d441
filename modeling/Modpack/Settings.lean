import Modpack.Files.Read
import Modpack.IdRanges

/-!
# Settings

The settings of the command line stand in a TOML file, whatever its name. A file that is missing
leaves everything at its default, and so does a setting that is not written.
-/
namespace Modpack

/-- The settings. -/
structure Settings where
  /-- The folder of the packages. -/
  packagesFolder : String := "packages"
  /-- The language of the phrases. -/
  language : String := "en"
  /-- What is logged beyond the default. -/
  logFilter : Option String := none
  /-- Where numbers begin. -/
  ids : IdRanges := {}
deriving DecidableEq, Repr

namespace Settings

/-- The file looked for when no other is named. -/
def defaultFile : String := "content-forge.toml"

open Document

/-- The fields of the settings. -/
def schema : List Field :=
  [field "packages_dir", field "language", field "log_filter", field "ids"]

/-- Settings from a document. -/
def ofValue? (format : Format) (value : Value) : Option Settings := do
  let found ← fields? format schema value
  let plain : Settings := {}
  let packagesFolder ← withDefault? plain.packagesFolder text? found "packages_dir"
  let language ← withDefault? plain.language text? found "language"
  let logFilter ← withDefault? plain.logFilter (orNull? text?) found "log_filter"
  let ids ← withDefault? plain.ids (IdRanges.ofValue? format) found "ids"
  some { packagesFolder, language, logFilter, ids }

/-- The settings in a file. -/
def load (tree : FileTree) (path : String) : Except LoadError Settings :=
  if tree.contains path then
    match tree.text? path with
    | none => .error (.unreadable path)
    | some text =>
      match Format.toml.decode? ofValue? text with
      | none => .error (.malformed path)
      | some settings => .ok settings
  else .ok {}

end Settings

end Modpack
