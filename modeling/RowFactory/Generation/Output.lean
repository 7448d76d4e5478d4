import RowFactory.Generation.Placement

/-! # Generated files -/

namespace RowFactory.Generation

structure GeneratedFile where
  path : String
  content : String
  kind : FileKind
  deriving DecidableEq, Repr

structure Output where
  files : List GeneratedFile := []
  warnings : List String := []
  deriving DecidableEq, Repr

namespace Output

def addFile (o : Output) (f : GeneratedFile) : Output := { o with files := o.files ++ [f] }

def addWarning (o : Output) (warning : String) : Output := { o with warnings := o.warnings ++ [warning] }

def hasWarnings (o : Output) : Bool := !o.warnings.isEmpty

def ofKind (o : Output) (kind : FileKind) : List GeneratedFile := o.files.filter (·.kind = kind)

def file? (o : Output) (path : String) : Option GeneratedFile :=
  o.files.find? fun f => Disk.Path.same f.path path

end Output

def sortFiles (files : List GeneratedFile) : List GeneratedFile :=
  files.mergeSort fun a b => Disk.Path.le a.path b.path

end RowFactory.Generation
