import Modpack.Settings

/-!
# The command line

Arguments are taken one after the other, and the first that asks for help, asks for the version,
or is wrong decides. Two options take a value, in the same argument after an equals sign or in
the next one; an argument that begins with a hyphen is no value by itself, a lone hyphen apart.
-/
namespace Modpack.CommandLine

/-- What a check of packages is told. -/
structure Options where
  /-- The file of the settings. -/
  settingsFile : String := Settings.defaultFile
  /-- The folder of the packages, if not the one of the settings. -/
  packagesFolder : Option String := none
deriving DecidableEq, Repr

/-- What the arguments ask for. -/
inductive Request where
  /-- To be told how to ask. -/
  | help
  /-- To be told the version. -/
  | version
  /-- To check packages. -/
  | check (options : Options)
deriving DecidableEq, Repr

/-- What is wrong with the arguments. -/
inductive UsageError where
  /-- An argument that means nothing. -/
  | unexpectedArgument (argument : String)
  /-- An option that is given twice. -/
  | repeatedOption (option : String)
  /-- An option without a value. -/
  | missingValue (option : String)
  /-- A value for an option that takes none. -/
  | unexpectedValue (option : String)
deriving DecidableEq, Repr

/-- The words for what is wrong. -/
def UsageError.message : UsageError → String
  | unexpectedArgument argument => "unexpected argument '" ++ argument ++ "' found"
  | repeatedOption option => "the argument '" ++ option ++ "' cannot be used multiple times"
  | missingValue option => "a value is required for '" ++ option ++ "' but none was supplied"
  | unexpectedValue option => "unexpected value for '" ++ option ++ "' found"

/-- The options that take a value. -/
inductive ValueOption where
  | config
  | packages
deriving DecidableEq, Repr

/-- How an option is written. -/
def ValueOption.name : ValueOption → String
  | config => "--config"
  | packages => "--packages"

/-- The values found so far. -/
abbrev Found := List (ValueOption × String)

/-- The options the values make. -/
def Found.options (found : Found) : Options :=
  { settingsFile := (found.lookup .config).getD Settings.defaultFile
    packagesFolder := found.lookup .packages }

/-- Take a value for an option. -/
def take (found : Found) (option : ValueOption) (value : String) : Except UsageError Found :=
  if (found.lookup option).isSome then .error (.repeatedOption option.name)
  else if value = "" then .error (.missingValue option.name)
  else .ok ((option, value) :: found)

/-- The parts of an argument before and after its first equals sign. -/
def splitValue (argument : String) : String × Option String :=
  let letters := argument.toList
  (String.ofList (letters.takeWhile (· ≠ '=')),
    match letters.dropWhile (· ≠ '=') with
    | _ :: value => some (String.ofList value)
    | [] => none)

/-- Whether an argument may be a value by itself. -/
def isValue (argument : String) : Bool :=
  argument = "-" || argument.toList.head? ≠ some '-'

/-- What a single argument is. -/
inductive Argument where
  /-- The request for help, with or without a value. -/
  | help (value : Option String)
  /-- The request for the version, with or without a value. -/
  | version (value : Option String)
  /-- The mark after which nothing is an option. -/
  | endOfOptions
  /-- An option that takes a value. -/
  | option (option : ValueOption) (value : Option String)
  /-- Anything else. -/
  | other
deriving DecidableEq, Repr

/-- Tell what an argument is. What follows the letter of a short request does not matter. -/
def Argument.ofText (text : String) : Argument :=
  match text.toList with
  | ['-', '-'] => .endOfOptions
  | '-' :: '-' :: _ =>
    let (name, value) := splitValue text
    if name = "--help" then .help value
    else if name = "--version" then .version value
    else if name = ValueOption.config.name then .option .config value
    else if name = ValueOption.packages.name then .option .packages value
    else .other
  | '-' :: 'h' :: _ => .help none
  | '-' :: 'V' :: _ => .version none
  | _ => .other

/-- Take the arguments in order. -/
def parseFrom : List String → Found → Except UsageError Request
  | [], found => .ok (.check found.options)
  | text :: rest, found =>
    match Argument.ofText text with
    | .help none => .ok .help
    | .version none => .ok .version
    | .help (some _) => .error (.unexpectedValue "--help")
    | .version (some _) => .error (.unexpectedValue "--version")
    | .other => .error (.unexpectedArgument text)
    | .endOfOptions =>
      match rest with
      | [] => .ok (.check found.options)
      | argument :: _ => .error (.unexpectedArgument argument)
    | .option option (some value) => do
      let found ← take found option value
      parseFrom rest found
    | .option option none =>
      match rest with
      | [] => .error (.missingValue option.name)
      | value :: rest => do
        if isValue value then
          let found ← take found option value
          parseFrom rest found
        else .error (.missingValue option.name)

/-- What the arguments ask for. -/
def parse (arguments : List String) : Except UsageError Request :=
  parseFrom arguments []

/-- How to ask. -/
def usage : String :=
  "Validate content packages against an in-memory host\n\n"
    ++ "Usage: content-forge [OPTIONS]\n\nOptions:\n"
    ++ "      --config <CONFIG>      Settings file [default: " ++ Settings.defaultFile ++ "]\n"
    ++ "      --packages <PACKAGES>  Packages directory (overrides the settings)\n"
    ++ "  -h, --help                 Print help\n"
    ++ "  -V, --version              Print version"

/-- The name of the program and its version. -/
def versionLine : String := "content-forge 0.1.1"

end Modpack.CommandLine
