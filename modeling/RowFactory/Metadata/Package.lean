import RowFactory.Ascending
import RowFactory.Naming

/-! # Where generated code finds its surroundings

The modules of the factory, of its record and of the records that it refers to, and the path of the
support library.
-/

namespace RowFactory.Metadata

def defaultRuntimePath : String := "::rowsmith_runtime"

structure Package where
  factoryModule : String
  recordModule : String
  runtimePath : String
  recordModules : List (String × String) := []
  deriving DecidableEq, Repr

namespace Package

def addRecord (p : Package) (recordType moduleName : String) : Package :=
  { p with recordModules := Ascending.put recordType moduleName p.recordModules }

/-- Module of a record type; one that is not listed lives beside the factory's own record. -/
def moduleOf (p : Package) (recordType : String) : String :=
  (p.recordModules.lookup recordType).getD p.recordModule

def standard : Package := ⟨"crate", "crate::records", defaultRuntimePath, []⟩

end Package

end RowFactory.Metadata
