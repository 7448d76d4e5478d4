import RowFactory.Command.Arguments
import RowFactory.Command.Report
import RowFactory.Generation.Writing
import RowFactory.Json.Writer
import RowFactory.Metadata.Coding
import RowFactory.Schema.File

/-! # Commands

A command tells whether everything went well. Tables that fail are reported and do not stop it; anything
else that goes wrong does.
-/

namespace RowFactory.Command

open Generation (Outcome)
open Reporting

variable {m : Type → Type} [Monad m] [Disk.Files m]

/-- The settings, with what is given instead of them. -/
def Inputs.resolve (inputs : Inputs) : ExceptT Failure m Settings := do
  let s ← Settings.find inputs.settings
  return {
    schema := inputs.schema.getD s.schema
    sourceDirectory := inputs.sources.getD s.sourceDirectory
    outputDirectory := inputs.output.getD s.outputDirectory
    runtimePath := inputs.runtime.getD s.runtimePath
    docs := s.docs && !inputs.noDocs
    moduleIndex := s.moduleIndex && !inputs.noModuleIndex }

def loadSchema (path : String) : Reporting m Schema.Catalog :=
  doing s!"failed to load schema {path}" (Schema.Catalog.ofFile path)

def labelled (style : Style) (width : Nat) (label text : String) : String :=
  let label := style.paint .label label
  let label := label.pushn ' ' (width - label.length)
  s!"  {label} {text}"

def reportOutcome (style : Style) (s : Settings) (o : Outcome) : Reporting m Unit := do
  let entry := labelled style 8
  sayAll [style.paint .heading "Rowsmith", entry "schema" s.schema, entry "sources" s.sourceDirectory, ""]
  for table in o.tables do
    let mark := style.paint .success "ok"
    say s!"  {mark} {table}"
  for f in o.failures do
    complain style s!"{f.table} ({f.declaredBy}): {f.error.message}"
  for warning in o.output.warnings do
    warn style warning
  if o.tables.isEmpty && o.failures.isEmpty then
    let remark := style.paint .muted "no #[factory] declarations found"
    say s!"  {remark}"

def writeOutcome (style : Style) (o : Outcome) (directory : String) : Reporting m Unit := do
  let summary ← doing "failed to write generated files" (o.output.write directory)
  let mark := style.paint .success "Done:"
  let written := summary.written.length
  let unchanged := summary.unchanged.length
  say s!"{mark} {written} written, {unchanged} unchanged in {directory}"
  for path in ← doing "failed to remove stale generated files" (o.removeStale directory) do
    warn style s!"removed stale {path}"

def reportFiles (style : Style) (o : Outcome) : Reporting m Unit := do
  let mark := style.paint .muted "would write"
  for file in o.output.files do
    say s!"  {mark} {file.path}"

def generate (style : Style) (inputs : Inputs) (write : Bool) : Reporting m Bool := do
  let s ← silently inputs.resolve
  let catalog ← loadSchema s.schema
  let o ← doing s!"failed to scan {s.sourceDirectory}"
    (Generation.processDirectory catalog s.options s.sourceDirectory)
  reportOutcome style s o
  if write then writeOutcome style o s.outputDirectory else reportFiles style o
  if !o.isSuccess then
    let count := o.failures.length
    complain style s!"{count} table(s) failed"
  return o.isSuccess

/-- Who asks for a table when no declaration does. -/
def inspector : String := "rowsmith inspect"

def describe (style : Style) (t : Metadata.Table) : List String :=
  let entry := labelled style 12
  let title := style.paint .heading t.name
  let record := style.paint .muted t.recordTypeName
  let listed (fields : List String) := ", ".intercalate fields
  [s!"{title} {record}", entry "factory" s!"{t.singularName}, {t.singularName}_with",
    entry "required" (listed t.required), entry "optional" (listed t.optional),
    entry "constructor" (listed t.constructorFields)] ++
    t.foreignKeys.map fun k => entry "association" s!"{k.field} -> {k.table} ({k.singularName})"

def inspect (style : Style) (table : String) (json : Bool) (settings schema : Option String) :
    Reporting m Bool := do
  let s ← silently (Settings.find settings)
  let catalog ← loadSchema (schema.getD s.schema)
  match Metadata.resolve catalog table inspector with
  | .error error => throw ⟨[], error⟩
  | .ok t =>
    if json then say (Json.write (Metadata.encodeTable t)) else sayAll (describe style t)
    return true

def run (style : Style) : Request → Reporting m Bool
  | .generate inputs dryRun => generate style inputs (!dryRun)
  | .check inputs => generate style inputs false
  | .inspect table json settings schema => inspect style table json settings schema

end RowFactory.Command
