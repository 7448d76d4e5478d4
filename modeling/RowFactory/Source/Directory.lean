import RowFactory.Code.Render
import RowFactory.Disk.Files
import RowFactory.Source.Index
import RowFactory.Source.ModulePath

/-! # Source trees on disk

All source files below a directory make up one index. Files that were generated do not count.
-/

namespace RowFactory.Source

variable {m : Type → Type} [Monad m] [Disk.Files m]

def sourceExtension : String := "rs"

def isSourceFile (path : String) : Bool := Disk.Path.extension? path = some sourceExtension

def isGenerated (text : String) : Bool := Code.generatedHeader.toList.isPrefixOf text.toList

/-- Adds a file of a source tree, given by its path from the top of the tree. -/
def Index.addFile (index : Index) (directory path : String) : ExceptT Error m Index := do
  let file := Disk.Path.join directory path
  match ← (Disk.Files.readText file : m _) with
  | .error reason => throw (.fileRead file (.system reason))
  | .ok text =>
    if isGenerated text then return index
    else
      match index.addSource (moduleOfFile path) file text with
      | (index, none) => return index
      | (_, some error) => throw error

def Index.ofDirectory (directory : String) : ExceptT Error m Index := do
  if !(← (Disk.Files.isDirectory directory : m Bool)) then throw (.fileRead directory .noDirectory)
  match ← (Disk.Files.filesBelow directory : m _) with
  | .error reason => throw (.fileRead directory (.system reason))
  | .ok paths => (paths.filter isSourceFile).foldlM (fun index path => index.addFile directory path) {}

end RowFactory.Source
