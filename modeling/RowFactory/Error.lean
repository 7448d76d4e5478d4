import RowFactory.Json.Document

/-! # Causes of failure

One type for all stages, from reading a schema to writing files. Each cause carries what its message
names.
-/

namespace RowFactory

inductive MarkerFault where
  | unsupportedArgument
  | emptyTable
  | missingTable
  | malformed
  deriving DecidableEq, Repr

namespace MarkerFault

def message : MarkerFault → String
  | .unsupportedArgument => "unsupported factory argument"
  | .emptyTable => "table name must not be empty"
  | .missingTable => "missing `table = \"...\"`"
  | .malformed => "malformed argument"

end MarkerFault

inductive SourceFault where
  | unreadable (reason : String)
  | marker (item : String) (fault : MarkerFault)
  deriving DecidableEq, Repr

namespace SourceFault

def message : SourceFault → String
  | .unreadable reason => reason
  | .marker item fault => s!"invalid #[factory] on '{item}': {fault.message}"

end SourceFault

inductive ReadFault where
  | noDirectory
  /-- The file is there, and its text describes no schema. -/
  | noSchema (reason : String)
  | system (reason : String)
  deriving DecidableEq, Repr

namespace ReadFault

def message : ReadFault → String
  | .noDirectory => "source directory does not exist"
  | .noSchema reason => s!"Invalid schema description: {reason}"
  | .system reason => reason

end ReadFault

inductive Error where
  | unresolvableTable (table declaredBy : String)
  | missingRecordType (table expected : String)
  | duplicateFactory (table first second : String)
  | namingCollision (table symbol : String) (sources : List String)
  | invalidIdentifier (table name : String)
  | invalidPath (reason : String)
  | invalidMetadata (table reason : String)
  | schemaNotFound (path : String)
  | unsupportedSchemaFormat (path : String)
  | render (unit reason : String)
  | sourceParse (path : String) (fault : SourceFault)
  | invalidConfig (reason : String)
  | io (reason : String)
  | fileRead (path : String) (fault : ReadFault)
  | fileWrite (path reason : String)
  | directoryCreate (path reason : String)
  | json (error : Json.Error)
  | toml
  | withContext (context reason : String)
  deriving DecidableEq, Repr

def Json.Error.message : Json.Error → String
  | .fault .malformed => "malformed text"
  | .fault .truncated => "unexpected end of text"
  | .mismatch reason => reason

namespace Error

def message : Error → String
  | .unresolvableTable table declaredBy =>
    s!"Table '{table}' declared by '{declaredBy}' does not exist in the schema"
  | .missingRecordType table expected =>
    s!"Record type '{expected}' for table '{table}' was not found in the scanned sources"
  | .duplicateFactory table first second =>
    s!"Table '{table}' has more than one factory declaration: '{first}' and '{second}'"
  | .namingCollision table symbol sources =>
    s!"Naming collision in table '{table}': '{symbol}' would be generated for " ++
      ", ".intercalate sources
  | .invalidIdentifier table name => s!"Invalid identifier '{name}' in table '{table}'"
  | .invalidPath reason => s!"Invalid module path: {reason}"
  | .invalidMetadata table reason => s!"Invalid metadata for table '{table}': {reason}"
  | .schemaNotFound path => s!"Schema file not found: {path}"
  | .unsupportedSchemaFormat path =>
    s!"Unsupported schema format for '{path}' (expected .json or .toml)"
  | .render unit reason => s!"Failed to render '{unit}': {reason}"
  | .sourceParse path fault => s!"Failed to parse source '{path}': {fault.message}"
  | .invalidConfig reason => s!"Invalid configuration: {reason}"
  | .io reason => s!"IO error: {reason}"
  | .fileRead path fault => s!"Failed to read file '{path}': {fault.message}"
  | .fileWrite path reason => s!"Failed to write file '{path}': {reason}"
  | .directoryCreate path reason => s!"Failed to create directory '{path}': {reason}"
  | .json error => s!"JSON error: {error.message}"
  | .toml => "TOML error: malformed text"
  | .withContext context reason => s!"{context}: {reason}"

end Error

end RowFactory
