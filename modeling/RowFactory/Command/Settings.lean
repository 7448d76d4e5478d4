import RowFactory.Disk.Files
import RowFactory.Error
import RowFactory.Generation.Options
import RowFactory.Json.Decoding
import RowFactory.Toml.Reader

/-! # Settings of a project

A settings file may set any of the settings and nothing else. Paths in it are meant from its own directory.
-/

namespace RowFactory.Command

/-- A failure, and what was being done, from the outside to the inside. -/
structure Failure where
  contexts : List String := []
  cause : Error
  deriving DecidableEq, Repr

namespace Failure

def within (context : String) (f : Failure) : Failure := { f with contexts := context :: f.contexts }

def message (f : Failure) : String := ": ".intercalate (f.contexts ++ [f.cause.message])

end Failure

def inContext {m : Type → Type} [Monad m] {α : Type} (context : String) (action : ExceptT Error m α) :
    ExceptT Failure m α :=
  action.adapt fun error => ⟨[context], error⟩

structure Settings where
  schema : String := "schema.json"
  sourceDirectory : String := "src"
  outputDirectory : String := "src/generated"
  runtimePath : String := Metadata.defaultRuntimePath
  docs : Bool := true
  moduleIndex : Bool := true
  deriving DecidableEq, Repr

namespace Settings

def fileName : String := "rowsmith.toml"

open Json (Document Decoder)

def place : String → Option (Settings → Document → Except Json.Error Settings)
  | "schema" => some fun s d => return { s with schema := ← Json.decodeText d }
  | "source_dir" => some fun s d => return { s with sourceDirectory := ← Json.decodeText d }
  | "output_dir" => some fun s d => return { s with outputDirectory := ← Json.decodeText d }
  | "runtime_path" => some fun s d => return { s with runtimePath := ← Json.decodeText d }
  | "generate_docs" => some fun s d => return { s with docs := ← Json.decodeFlag d }
  | "module_index" => some fun s d => return { s with moduleIndex := ← Json.decodeFlag d }
  | _ => none

def set (s : Settings) (member : Document × Document) : Except Json.Error Settings := do
  let name ← Json.decodeKey member.1
  match place name with
  | some step => step s member.2
  | none => throw (.mismatch s!"unknown field `{name}`")

def decode : Decoder Settings
  | .object members _ => members.foldlM set {}
  | d => Json.mismatch d "settings"

def ofText (text : String) : Except Failure Settings :=
  match Toml.decode? decode text with
  | some s => .ok s
  | none => .error ⟨["invalid rowsmith configuration"], .toml⟩

def below (directory : String) (s : Settings) : Settings :=
  { s with
    schema := Disk.Path.join directory s.schema
    sourceDirectory := Disk.Path.join directory s.sourceDirectory
    outputDirectory := Disk.Path.join directory s.outputDirectory }

variable {m : Type → Type} [Monad m] [Disk.Files m]

def ofFile (path : String) : ExceptT Failure m Settings := do
  match ← (Disk.Files.readText path : m _) with
  | .error reason => throw ⟨[s!"failed to read {path}"], .io reason⟩
  | .ok text =>
    match ofText text with
    | .error failure => throw (failure.within s!"failed to load {path}")
    | .ok s => return s.below ((Disk.Path.parent? path).getD ".")

/-- The settings of a file, or those of the working directory. -/
def find (path? : Option String) : ExceptT Failure m Settings := do
  match path? with
  | some path => ofFile path
  | none => if ← (Disk.Files.isFile fileName : m Bool) then ofFile fileName else return {}

def options (s : Settings) : Generation.Options :=
  { outputDirectory := s.outputDirectory
    runtimePath := s.runtimePath
    docs := s.docs
    moduleIndex := s.moduleIndex }

end Settings

end RowFactory.Command
