import RowFactory.Source.Grammar
import RowFactory.Source.Marker
import RowFactory.Metadata.Package

/-! # Index of a source tree

Declarations of factories in the order in which they are found, and the modules of every struct.
-/

namespace RowFactory.Source

structure Declaration where
  table : String
  item : String
  moduleName : String
  file : String
  deriving DecidableEq, Repr

namespace Declaration

def declaredBy (d : Declaration) : String := d.moduleName ++ "::" ++ d.item

end Declaration

/-- What a walk through the items of a file comes upon, in its order. -/
inductive Finding where
  | struct (name moduleName : String)
  | declaration (d : Declaration)
  | faulty (item : String) (fault : MarkerFault)
  deriving DecidableEq, Repr

namespace ItemKind

def carriesMarkers : ItemKind → Bool
  | .other => false
  | _ => true

end ItemKind

def Finding.ofMarker (file moduleName item : String) (a : Attribute) : Finding :=
  match a.table with
  | .ok table => .declaration ⟨table, item, moduleName, file⟩
  | .error fault => .faulty item fault

def ownFindings (file moduleName : String) (item : Item) : List Finding :=
  (if item.kind = .struct then [.struct item.name moduleName] else []) ++
    if item.kind.carriesMarkers then
      (item.attributes.filter (·.isMarker)).map (.ofMarker file moduleName item.name)
    else []

mutual

def findings (file moduleName : String) : Item → List Finding
  | .mk kind name attributes contents =>
    ownFindings file moduleName (.mk kind name attributes []) ++
      findingsOfAll file (moduleName ++ "::" ++ name) contents

def findingsOfAll (file moduleName : String) : List Item → List Finding
  | [] => []
  | item :: rest => findings file moduleName item ++ findingsOfAll file moduleName rest

end

structure Index where
  declarations : List Declaration := []
  /-- Modules of each struct, by ascending name. -/
  structs : List (String × List String) := []
  deriving DecidableEq, Repr

namespace Index

def modulesOf (index : Index) (name : String) : List String := (index.structs.lookup name).getD []

def isEmpty (index : Index) : Bool := index.declarations.isEmpty

def addStruct (index : Index) (name moduleName : String) : Index :=
  { index with
    structs := Ascending.put name (index.modulesOf name ++ [moduleName]) index.structs }

/-- Adds findings up to the first faulty one. -/
def addFindings (file : String) (index : Index) : List Finding → Index × Option Error
  | [] => (index, none)
  | .struct name moduleName :: rest => addFindings file (index.addStruct name moduleName) rest
  | .declaration d :: rest =>
    addFindings file { index with declarations := index.declarations ++ [d] } rest
  | .faulty item fault :: _ => (index, some (.sourceParse file (.marker item fault)))

/-- Adds a source text as a module. After an error, what was found before it stays. -/
def addSource (index : Index) (moduleName file source : String) : Index × Option Error :=
  match readItems source with
  | some items => index.addFindings file (findingsOfAll file moduleName items)
  | none => (index, some (.sourceParse file (.unreadable "malformed source")))

end Index

end RowFactory.Source
