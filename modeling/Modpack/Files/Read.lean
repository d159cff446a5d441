import Modpack.Document.Json
import Modpack.Document.Toml.Reader
import Modpack.Files.Tree
import Modpack.Text.Quoted

/-!
# Reading documents from files

A document is a file whose name says its notation. The notation is settled before the file is
looked for; then the file must be there and hold text, and a reader must find in the text what is
asked for. The readers of the program take a text apart into a value first, which must be well
formed, and then look for what is asked for in the value.
-/
namespace Modpack

/-- Why something cannot be loaded. -/
inductive LoadError where
  /-- A package folder has no manifest. -/
  | missingManifest (folder : String)
  /-- A name does not say a known notation. -/
  | unsupportedFormat (path : String)
  /-- A document does not say what it should. -/
  | malformed (path : String)
  /-- A file cannot be read. -/
  | unreadable (path : String)
deriving DecidableEq, Repr

/-- The words for what cannot be loaded. -/
def LoadError.message : LoadError → String
  | missingManifest folder => "package folder " ++ Text.quoted folder ++ " has no manifest"
  | unsupportedFormat path => "unsupported document format: " ++ Text.quoted path
  | malformed path => "failed to parse " ++ Text.quoted path
  | unreadable path => "cannot read " ++ Text.quoted path

/-- The notation a path says. -/
def formatOf (path : String) : Except LoadError Format :=
  match Path.format? path with
  | some format => .ok format
  | none => .error (.unsupportedFormat path)

/-- The value a text stands for. -/
def Format.read? : Format → String → Option Value
  | .json, text => Json.read? text
  | .toml, text => Toml.read? text

variable {α : Type}

/-- What a text says in a notation. -/
def Format.decode? (format : Format) (decode : Format → Value → Option α) (text : String) :
    Option α :=
  (format.read? text).bind (decode format)

/-- What a reader of texts finds in the document at a path. -/
def readDocumentBy (reader : Format → String → Option α) (tree : FileTree) (path : String) :
    Except LoadError α := do
  let format ← formatOf path
  match tree.text? path with
  | none => .error (.unreadable path)
  | some text =>
    match reader format text with
    | none => .error (.malformed path)
    | some content => .ok content

/-- What the document at a path says. -/
def readDocument (decode : Format → Value → Option α) : FileTree → String → Except LoadError α :=
  readDocumentBy fun format => format.decode? decode

end Modpack
