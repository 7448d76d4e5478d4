import RowFactory.Command.Run
import RowFactory.Command.Usage

/-! # The program

Commands on the disk of the machine.
-/

namespace RowFactory

def outcomeOf {α : Type} (step : IO α) : IO (Except String α) := do
  return (← step.toBaseIO).mapError toString

def fileType? (path : String) : IO (Option IO.FS.FileType) := do
  if path.isEmpty then return none
  let entry : IO.FS.DirEntry := ⟨".", path⟩
  return (← entry.path.metadata.toBaseIO).toOption.map (·.type)

/-- The files below a path in a directory, by their paths from the directory. Directories nest no deeper
than given. -/
def filesBelow (directory : String) : Nat → String → IO (List String)
  | 0, _ => return []
  | depth + 1, path => do
    let entry : IO.FS.DirEntry := ⟨".", Disk.Path.join directory path⟩
    let entries := (← entry.path.readDir).toList.mergeSort (·.fileName ≤ ·.fileName)
    let files ← entries.mapM fun entry => do
      let below := Disk.Path.join path entry.fileName
      match (← entry.path.symlinkMetadata).type with
      | .dir => filesBelow directory depth below
      | .file => return [below]
      | _ => return []
    return files.flatten

/-- Directories nest no deeper than a path can be long. -/
def depthLimit : Nat := 4096

instance : Disk.Files IO where
  isThere path := do return (← fileType? path).isSome
  isDirectory path := do
    match ← fileType? path with
    | some .dir => return true
    | _ => return false
  isFile path := do
    match ← fileType? path with
    | some .file => return true
    | _ => return false
  readText path := outcomeOf (IO.FS.readFile path)
  writeText path text := outcomeOf (IO.FS.writeFile path text)
  createDirectories path := if path.isEmpty then return .ok () else outcomeOf (IO.FS.createDirAll path)
  removeFile path := outcomeOf (IO.FS.removeFile path)
  filesBelow directory := outcomeOf (filesBelow directory depthLimit "")

namespace Command

def showResult (style : Style) (result : Except Failure Bool) (report : Report) : IO UInt32 := do
  for line in report do
    match line.channel with
    | .output => IO.println line.text
    | .messages => IO.eprintln line.text
  match result with
  | .ok success => return if success then 0 else 1
  | .error failure =>
    IO.eprintln (style.errorLine failure.message)
    return 1

def styleOfTerminal : IO Style := do
  return .ofEnvironment (← (← IO.getStdout).isTty) (← IO.getEnv "CLICOLOR") (← IO.getEnv "NO_COLOR")
    (← IO.getEnv "CLICOLOR_FORCE")

end Command

end RowFactory

open RowFactory.Command

def main (arguments : List String) : IO UInt32 := do
  match Arguments.read arguments with
  | .error fault =>
    if fault.isQuestion then
      IO.println fault.text
      return 0
    else
      IO.eprintln fault.text
      return 2
  | .ok given =>
    let style ← styleOfTerminal
    let (result, report) ← (run style given.request).run.run []
    showResult style result report
