import WirelessScan.Program

/-!
# The program on a real file system

The program is run on a tree that holds what the file system has at the paths in question. What the
run adds to the tree is written back, and its pages are printed.
-/

namespace WirelessScan.Program

/-- What the file system has at a location below a directory. -/
def lookUp (loc : Location) : IO (Option FileEntry) := do
  match ← (IO.FS.readBinFile (Path.ofLocation loc)).toBaseIO with
  | .ok bytes => return some (.file (.ofBytes bytes.toList))
  | .error (.noFileOrDirectory ..) => return none
  | .error (.inappropriateType ..) => return some .directory
  | .error e => throw e

/-- A tree with what the file system has on the way to a path. -/
def survey (files : FileTree) (path : String) : IO FileTree :=
  (files.places path).foldlM (fun files loc => do
    if !files.isDirectory loc.dropLast || (files.entry? loc).isSome then return files
    match ← lookUp loc with
    | some e => return files.put loc e
    | none => return files) files

/-- Makes an entry in the file system. -/
def writeBack (loc : Location) : FileEntry → IO Unit
  | .directory => IO.FS.createDir (Path.ofLocation loc)
  | .file (.text s) => IO.FS.writeFile (Path.ofLocation loc) s
  | .file (.binary bytes) => IO.FS.writeBinFile (Path.ofLocation loc) ⟨bytes.toArray⟩

/-- Runs the program on the file system. -/
def perform (words : List String) : IO UInt32 := do
  let env : Environment := {
    configHome := configHome (← IO.getEnv "XDG_CONFIG_HOME") (← IO.getEnv "HOME")
    clock := .ofNat (← IO.monoNanosNow) }
  let here : FileTree := {
    workingDirectory := Path.toLocation (toString (← IO.currentDir)) }
  let configured ← (pathsNeeded env words here).foldlM survey
    (← survey here (Path.ofLocation here.workingDirectory))
  let files ← (pathsNeeded env words configured).foldlM survey configured
  let outcome := run env words files
  (outcome.files.entriesSince files).forM fun (loc, e) => writeBack loc e
  IO.print (Page.output outcome.pages)
  match outcome.error with
  | some e => IO.eprintln s!"Error: {e}"
  | none => pure ()
  return outcome.exitCode

end WirelessScan.Program

/-- Runs the program with the words of the command line. -/
def main (words : List String) : IO UInt32 :=
  WirelessScan.Program.perform words
