import RowFactory.Code.Render
import RowFactory.Generation.Output

/-! # Module indexes

Every directory of generated files, and every directory above it, gets a file that declares the modules
in it.
-/

namespace RowFactory.Generation

def indexName : String := "mod.rs"

/-- Directories and the modules in them, both ascending. -/
abbrev Listing := List (String × List String)

def addModule (directory name : String) : Listing → Listing
  | [] => [(directory, [name])]
  | (d, names) :: rest =>
    if Disk.Path.same directory d then (d, Ascending.insert name names) :: rest
    else if Disk.Path.before directory d then (directory, [name]) :: (d, names) :: rest
    else (d, names) :: addModule directory name rest

/-- Adds a directory to the one above it, and so on up to the top. -/
def linkAncestors : Nat → String → Listing → Listing
  | 0, _, listing => listing
  | depth + 1, directory, listing =>
    match Disk.Path.fileName? directory with
    | none => listing
    | some name =>
      let above := (Disk.Path.parent? directory).getD ""
      linkAncestors depth above (addModule above name listing)

def addPath (path : String) (listing : Listing) : Listing :=
  match Disk.Path.fileStem? path with
  | none => listing
  | some stem =>
    let directory := (Disk.Path.parent? path).getD ""
    -- A directory has as many directories above it as it has components.
    linkAncestors (Disk.Path.components directory).length directory (addModule directory stem listing)

def listingOf (paths : List String) : Listing :=
  paths.foldl (fun listing path => addPath path listing) []

def indexFile (directory : String) (names : List String) : Except Error GeneratedFile := do
  let path := Disk.Path.join directory indexName
  let idents ← names.mapM (Code.ident path)
  let content ← Code.renderFile path (idents.map .declaration)
  return ⟨path, content, .moduleIndex⟩

def indexFiles (files : List GeneratedFile) : Except Error (List GeneratedFile) :=
  (listingOf (files.map (·.path))).mapM fun (directory, names) => indexFile directory names

end RowFactory.Generation
