import Modpack.Check

/-!
# The program

Reads the files that the arguments are about into a tree, has the check done on that tree, and
prints what it has to say.
-/
namespace Modpack

/-- Add what is found at a path to a tree, folders down to a depth. -/
def snapshot (tree : FileTree) (path : String) : Nat → IO FileTree
  | 0 => return tree
  | depth + 1 => do
    let found := (← IO.currentDir) / path
    if ← found.isDir then
      let names := (← found.readDir).toList.map fun entry => entry.fileName
      names.foldlM (fun tree name => snapshot tree (Path.join path name) depth)
        (tree.addFolder (tree.placeOf path))
    else if ← found.pathExists then
      return tree.addFile (tree.placeOf path) (← IO.FS.readBinFile found)
    else return tree

/-- How deep the files of packages lie in their folder. -/
def packageDepth : Nat := 4

/-- The files a check is about. -/
def CommandLine.Options.files (options : CommandLine.Options) : IO FileTree := do
  let here := (Path.segments (← IO.currentDir).toString).filter (· ≠ "")
  let tree ← snapshot (.empty here) options.settingsFile 1
  match Settings.load tree options.settingsFile with
  | .error _ => return tree
  | .ok settings =>
    snapshot tree (options.packagesFolder.getD settings.packagesFolder) packageDepth

/-- Print an answer. -/
def Answer.print (answer : Answer) : IO Unit := do
  for complaint in answer.complaints do
    IO.eprintln complaint
  for line in answer.reload do
    IO.println ("Re-injection after reload: " ++ line)
  for line in answer.summary do
    IO.println line
  for line in answer.result do
    IO.println ("Result: " ++ line)

end Modpack

open Modpack

/-- Check packages as the arguments say. -/
def main (arguments : List String) : IO UInt32 := do
  let answer ← match CommandLine.parse arguments with
    | .ok .help =>
      IO.println CommandLine.usage
      pure (CommandLine.answer arguments (.empty []))
    | .ok .version =>
      IO.println CommandLine.versionLine
      pure (CommandLine.answer arguments (.empty []))
    | .ok (.check options) => pure (CommandLine.answer arguments (← options.files))
    | .error _ => pure (CommandLine.answer arguments (.empty []))
  answer.print
  return answer.exitCode.toUInt32
