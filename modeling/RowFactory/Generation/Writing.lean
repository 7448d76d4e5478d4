import RowFactory.Generation.Process
import RowFactory.Source.Directory

/-! # Generated files on disk

Files that have their content already are left alone. What failed declarations left behind is removed, if
it was generated.
-/

namespace RowFactory.Generation

variable {m : Type → Type} [Monad m] [Disk.Files m]

structure WriteSummary where
  written : List String := []
  unchanged : List String := []
  deriving DecidableEq, Repr

/-- Writes one file below a directory, unless it is there with its content. -/
def writeFile (directory : String) (summary : WriteSummary) (file : GeneratedFile) :
    ExceptT Error m WriteSummary := do
  let path := Disk.Path.join directory file.path
  if (← (Disk.Files.readText path : m _)).toOption = some file.content then
    return { summary with unchanged := summary.unchanged ++ [path] }
  else
    if let some parent := Disk.Path.parent? path then
      if let .error reason ← (Disk.Files.createDirectories parent : m _) then
        throw (.directoryCreate parent reason)
    if let .error reason ← (Disk.Files.writeText path file.content : m _) then
      throw (.fileWrite path reason)
    return { summary with written := summary.written ++ [path] }

def Output.write (o : Output) (directory : String) : ExceptT Error m WriteSummary :=
  o.files.foldlM (writeFile directory) {}

def removeGenerated (directory : String) (removed : List String) (path : String) :
    ExceptT Error m (List String) := do
  let path := Disk.Path.join directory path
  if (((← (Disk.Files.readText path : m _)).toOption).map Source.isGenerated).getD false then
    if let .error reason ← (Disk.Files.removeFile path : m _) then throw (.fileWrite path reason)
    return removed ++ [path]
  else return removed

/-- Removes what failed declarations left behind, and gives its paths. -/
def Outcome.removeStale (o : Outcome) (directory : String) : ExceptT Error m (List String) :=
  o.stalePaths.foldlM (removeGenerated directory) []

def processDirectory (catalog : Schema.Catalog) (options : Options) (directory : String) :
    ExceptT Error m Outcome := do
  return process catalog options (← Source.Index.ofDirectory directory)

end RowFactory.Generation
