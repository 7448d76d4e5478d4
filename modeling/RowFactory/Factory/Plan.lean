import RowFactory.Code.Path
import RowFactory.Generation.Options
import RowFactory.Metadata.Package
import RowFactory.Metadata.Table

/-! # Plans of generated code

A plan fixes every name and path that the code of one table uses. A plan that could be made gives no
two things of one scope the same name.
-/

namespace RowFactory.Factory

def blockParameter : String := "block"

def associationsField : String := "associations"

def contextType : String := "AssociationContext"

/-- Methods that an association method must not hide. -/
def contextMethods : List String :=
  ["new", "with_persister", "set_persister", "has_persister", "register", "associate_with_persist",
    "get", "get_mut", "contains", "keys", "len", "is_empty"]

def valuePath : FieldKind → Code.Path
  | .integer => .ofNames false ["i32"]
  | .boolean => .ofNames false ["bool"]
  | .timestamp => .ofNames true ["chrono", "NaiveDateTime"]
  | .foreignKey => .ofNames false ["i64"]
  | .text => .ofNames false ["String"]

structure Field where
  name : String
  ident : Code.Ident
  setter : Code.Ident
  kind : FieldKind
  required : Bool
  /-- Type that says the field has been set; a field that may be left out has none. -/
  marker : Option Code.Ident
  deriving DecidableEq, Repr

namespace Field

def isForeignKey (f : Field) : Bool := f.kind = .foreignKey

/-- A new row cannot do without the field. -/
def inConstructor (f : Field) : Bool := f.required && !f.isForeignKey

end Field

structure Association where
  field : String
  method : Code.Ident
  record : Code.Path
  deriving DecidableEq, Repr

structure Plan where
  table : String
  baseName : String
  fields : List Field
  associations : List Association
  record : Code.Path
  runtime : Code.Path
  factory : Code.Ident
  factoryWith : Code.Ident
  stateTrait : Code.Ident
  stateBuilder : Code.Ident
  blockBuilder : Code.Ident
  associationsTrait : Code.Ident
  docs : Bool
  package : Metadata.Package
  deriving DecidableEq, Repr

namespace Plan

def requiredFields (p : Plan) : List Field := p.fields.filter (·.required)

def optionalFields (p : Plan) : List Field := p.fields.filter (!·.required)

def constructorFields (p : Plan) : List Field := p.fields.filter (·.inConstructor)

def deferredFields (p : Plan) : List Field := p.fields.filter (!·.inConstructor)

def markers (p : Plan) : List Code.Ident := p.requiredFields.filterMap (·.marker)

def association? (p : Plan) (field : String) : Option Association :=
  p.associations.find? (·.field = field)

def hasAssociations (p : Plan) : Bool := !p.associations.isEmpty

def fileStem (p : Plan) : String := Text.snakeCase p.baseName

end Plan

/-- Adds a source to the symbol that it gives rise to, in ascending order of symbols. -/
def addSource (symbol source : String) :
    List (String × List String) → List (String × List String)
  | [] => [(symbol, [source])]
  | (s, sources) :: rest =>
    if symbol < s then (symbol, [source]) :: (s, sources) :: rest
    else if symbol = s then (s, sources ++ [source]) :: rest
    else (s, sources) :: addSource symbol source rest

def sourcesOf (pairs : List (String × String)) : List (String × List String) :=
  pairs.foldl (fun table (symbol, source) => addSource symbol source table) []

structure Collision where
  symbol : String
  sources : List String
  deriving DecidableEq, Repr

namespace Plan

def markerCollision? (p : Plan) : Option Collision :=
  (sourcesOf (p.fields.filterMap fun f => f.marker.map fun m => (m.text, f.name))).findSome?
    fun (symbol, sources) => if 1 < sources.length then some ⟨symbol, sources⟩ else none

/-- Two references with one method, or a method that hides one of the context. -/
def methodCollision? (p : Plan) : Option Collision :=
  (sourcesOf (p.associations.map fun a => (a.method.name, a.field))).findSome?
    fun (symbol, sources) =>
      if 1 < sources.length then some ⟨symbol, sources⟩
      else if contextMethods.contains symbol then some ⟨symbol, sources.take 1 ++ [contextType]⟩
      else none

def blockCollision? (p : Plan) : Option Collision :=
  (p.constructorFields.find? (·.name = blockParameter)).map fun f =>
    ⟨blockParameter, [f.name, p.factory.text ++ "_with"]⟩

def contextCollision? (p : Plan) : Option Collision :=
  if p.hasAssociations then
    (p.fields.find? (·.name = associationsField)).map fun f =>
      ⟨associationsField, [f.name, "association context"]⟩
  else none

def collision? (p : Plan) : Option Collision :=
  p.markerCollision? <|> p.methodCollision? <|> p.blockCollision? <|> p.contextCollision?

end Plan

def Field.plan (t : Metadata.Table) (required : Bool) (name : String) : Except Error Field := do
  let marker ←
    if required then some <$> Code.ident t.name ("With" ++ Text.pascalCase name) else pure none
  let ident ← Code.ident t.name name
  let setter ← Code.ident t.name ("with_" ++ name)
  return { name, ident, setter, kind := t.fieldKind name, required, marker }

def Association.plan (t : Metadata.Table) (package : Metadata.Package) (key : Metadata.ForeignKey) :
    Except Error Association := do
  let method ← Code.ident t.name key.singularName
  let record ← Code.Path.ofType (package.moduleOf key.recordType) key.recordType
  return { field := key.field, method, record }

/-- The plan without a look at collisions. -/
def Plan.draft (t : Metadata.Table) (package : Metadata.Package) (docs : Bool) : Except Error Plan := do
  let required ← t.required.mapM (Field.plan t true)
  let optional ← t.optional.mapM (Field.plan t false)
  let associations ← t.foreignKeys.mapM (Association.plan t package)
  let record ← Code.Path.ofType package.recordModule t.recordTypeName
  let runtime ← Code.Path.parse package.runtimePath
  let factory ← Code.ident t.name t.singularName
  let factoryWith ← Code.ident t.name (t.singularName ++ "_with")
  let stateTrait ← Code.ident t.name (t.baseName ++ "FieldState")
  let stateBuilder ← Code.ident t.name (t.baseName ++ "FactoryBuilder")
  let blockBuilder ← Code.ident t.name (t.baseName ++ "DslBuilder")
  let associationsTrait ← Code.ident t.name (t.baseName ++ "Associations")
  return { table := t.name, baseName := t.baseName, fields := required ++ optional, associations, record,
           runtime, factory, factoryWith, stateTrait, stateBuilder, blockBuilder, associationsTrait, docs,
           package }

/-- The plan of a table, if no two of its names meet. -/
def Plan.ofTable (t : Metadata.Table) (package : Metadata.Package) (options : Generation.Options) :
    Except Error Plan := do
  let plan ← Plan.draft t package options.docs
  match plan.collision? with
  | some c => throw (.namingCollision t.name c.symbol c.sources)
  | none => return plan

end RowFactory.Factory
