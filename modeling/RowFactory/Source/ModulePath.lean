import RowFactory.Disk.Path

/-! # Modules of source files

The file `a/b.rs` and the file `a/b/mod.rs` hold the module `crate::a::b`; the files `lib.rs` and `main.rs`
at the top hold the crate itself.
-/

namespace RowFactory.Source

def crateName : String := "crate"

/-- The last part adds nothing to the path of its directory. -/
def isModuleRoot (alone : Bool) (part : String) : Bool :=
  part = "mod" || (alone && (part = "lib" || part = "main"))

def moduleSegments (parts : List String) : List String :=
  match parts.getLast? with
  | some last => if isModuleRoot (parts.length = 1) last then parts.dropLast else parts
  | none => []

/-- Module path of a file, given relative to the top of its source tree. -/
def moduleOfFile (path : String) : String :=
  let parts := (Disk.Path.components (Disk.Path.dropExtension path)).map Disk.Component.text
  "::".intercalate (crateName :: moduleSegments parts)

end RowFactory.Source
