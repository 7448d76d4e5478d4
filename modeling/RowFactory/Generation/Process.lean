import RowFactory.Factory.Associations
import RowFactory.Factory.StateBuilder
import RowFactory.Generation.ModuleIndex
import RowFactory.Metadata.Extraction
import RowFactory.Metadata.Validation
import RowFactory.Source.Index

/-! # Generating the code of all declarations

A declaration succeeds or fails on its own. One that fails leaves nothing behind, and of several
declarations of one table only the first can succeed.
-/

namespace RowFactory.Generation

open Source (Declaration Index)

structure TableOutput where
  files : List GeneratedFile
  warnings : List String
  deriving DecidableEq, Repr

structure TableFailure where
  table : String
  declaredBy : String
  error : Error
  /-- Files that the declaration has when it succeeds. -/
  paths : List String
  deriving DecidableEq, Repr

structure Outcome where
  output : Output := {}
  tables : List String := []
  failures : List TableFailure := []
  deriving DecidableEq, Repr

def locate (index : Index) (table recordType : String) : Except Error (String × List String) :=
  match index.modulesOf recordType with
  | [] => .error (.missingRecordType table recordType)
  | [only] => .ok (only, [])
  | first :: others =>
    let modules := ", ".intercalate (first :: others)
    .ok (first, [s!"record type '{recordType}' is declared in {modules}; using {first}"])

def referencedTypes (t : Metadata.Table) : List String :=
  t.foreignKeys.foldl (fun names key => Ascending.insert key.recordType names) []

def locateAll (index : Index) (table : String) :
    List String → Metadata.Package → Except Error (Metadata.Package × List String)
  | [], package => .ok (package, [])
  | recordType :: rest, package => do
    let (moduleName, warnings) ← locate index table recordType
    let (package, more) ← locateAll index table rest (package.addRecord recordType moduleName)
    return (package, warnings ++ more)

/-- Where the code of a declaration finds its surroundings, and what is doubtful about it. -/
def packageOf (options : Options) (index : Index) (d : Declaration) (t : Metadata.Table) :
    Except Error (Metadata.Package × List String) := do
  let (recordModule, warnings) ← locate index t.name t.recordTypeName
  let (package, more) ←
    locateAll index t.name (referencedTypes t) ⟨d.moduleName, recordModule, options.runtimePath, []⟩
  return (package, warnings ++ more)

def unitItems (plan : Factory.Plan) : FileKind → List Code.Item
  | .blockBuilder => Factory.blockUnit plan
  | _ => Factory.stateUnit plan

def unitFile (d : Declaration) (plan : Factory.Plan) (kind : FileKind) : Except Error GeneratedFile := do
  let path := unitPath d.moduleName d.table kind
  let content ← Code.renderFile path (unitItems plan kind)
  return ⟨path, content, kind⟩

def generateTable (catalog : Schema.Catalog) (options : Options) (index : Index) (d : Declaration) :
    Except Error TableOutput := do
  let t ← Metadata.resolve catalog d.table d.declaredBy
  t.validate
  let (package, warnings) ← packageOf options index d t
  let plan ← Factory.Plan.ofTable t package options
  let files ← options.unitKinds.mapM (unitFile d plan)
  return ⟨files, warnings⟩

/-- The outcome of a declaration that comes after others. -/
def attempt (catalog : Schema.Catalog) (options : Options) (index : Index) (earlier : List Declaration)
    (d : Declaration) : Except Error TableOutput :=
  match earlier.find? (·.table = d.table) with
  | some first => .error (.duplicateFactory d.table first.declaredBy d.declaredBy)
  | none => generateTable catalog options index d

def attempts (catalog : Schema.Catalog) (options : Options) (index : Index) (earlier : List Declaration) :
    List Declaration → List (Declaration × Except Error TableOutput)
  | [] => []
  | d :: rest =>
    (d, attempt catalog options index earlier d) ::
      attempts catalog options index (earlier ++ [d]) rest

def failure? (options : Options) : Declaration × Except Error TableOutput → Option TableFailure
  | (_, .ok _) => none
  | (d, .error error) =>
    some ⟨d.table, d.declaredBy, error, options.unitKinds.map (unitPath d.moduleName d.table)⟩

def success? : Declaration × Except Error TableOutput → Option (String × TableOutput)
  | (d, .ok output) => some (d.table, output)
  | (_, .error _) => none

/-- Adds the module indexes; a directory that is no module name leaves a warning instead. -/
def addIndexes (options : Options) (output : Output) : Output :=
  if options.moduleIndex then
    match indexFiles output.files with
    | .ok indexes => { output with files := output.files ++ indexes }
    | .error error => output.addWarning error.message
  else output

def process (catalog : Schema.Catalog) (options : Options) (index : Index) : Outcome :=
  let results := attempts catalog options index [] index.declarations
  let successes := results.filterMap success?
  let output : Output :=
    { files := successes.flatMap (·.2.files), warnings := successes.flatMap (·.2.warnings) }
  let output := addIndexes options output
  { output := { output with files := sortFiles output.files }
    tables := successes.map (·.1)
    failures := results.filterMap (failure? options) }

namespace Outcome

def isSuccess (o : Outcome) : Bool := o.failures.isEmpty

def addPath (path : String) : List String → List String
  | [] => [path]
  | p :: rest =>
    if Disk.Path.same path p then p :: rest
    else if Disk.Path.before path p then path :: p :: rest
    else p :: addPath path rest

/-- Paths of failed declarations at which nothing was generated, ascending. -/
def stalePaths (o : Outcome) : List String :=
  ((o.failures.flatMap (·.paths)).filter fun path =>
    (o.output.file? path).isNone).foldl (fun paths path => addPath path paths) []

def result (o : Outcome) : Except Error Output :=
  match o.failures with
  | [] => .ok o.output
  | [only] => .error only.error
  | failures =>
    .error (.withContext s!"{failures.length} tables failed"
      ("; ".intercalate (failures.map fun f => f.error.message)))

end Outcome

end RowFactory.Generation
