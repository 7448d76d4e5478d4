import RowFactory.Disk.Path
import RowFactory.Generation.Options
import RowFactory.Naming
import RowFactory.Source.ModulePath

/-! # Where generated files go

A factory in the module `crate::a::b` has its files in the directory `a/b`.
-/

namespace RowFactory.Generation

def segmentsOf (segment : List Char) : List Char → List String
  | [] => [String.ofList segment.reverse]
  | ':' :: ':' :: rest => String.ofList segment.reverse :: segmentsOf [] rest
  | c :: rest => segmentsOf (c :: segment) rest

def dropRawMarks : List Char → List Char
  | 'r' :: '#' :: rest => dropRawMarks rest
  | text => text

def directoryParts (moduleName : String) : List String :=
  ((segmentsOf [] moduleName.toList).filter (· ≠ Source.crateName)).map
    fun segment => String.ofList (dropRawMarks segment.toList)

/-- Directory of the files of a module, relative to the output directory. -/
def directoryOf (moduleName : String) : String := Disk.Path.ofParts (directoryParts moduleName)

inductive FileKind where
  | blockBuilder
  | stateBuilder
  | moduleIndex
  deriving DecidableEq, Repr

namespace FileKind

def label : FileKind → String
  | .blockBuilder => "Dsl"
  | .stateBuilder => "FactoryBuilder"
  | .moduleIndex => "ModuleIndex"

def suffix : FileKind → String
  | .blockBuilder => "_dsl"
  | .stateBuilder => "_factory_builder"
  | .moduleIndex => "mod"

def all : List FileKind := [.blockBuilder, .stateBuilder, .moduleIndex]

end FileKind

namespace Options

def unitKinds (o : Options) : List FileKind :=
  (if o.blockBuilders then [.blockBuilder] else []) ++ if o.stateBuilders then [.stateBuilder] else []

end Options

def unitPath (moduleName table : String) (kind : FileKind) : String :=
  Disk.Path.join (directoryOf moduleName) (Text.snakeCase (baseName table) ++ kind.suffix ++ ".rs")

end RowFactory.Generation
