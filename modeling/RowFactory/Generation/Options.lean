import RowFactory.Metadata.Package

/-! # What to generate, and where -/

namespace RowFactory.Generation

structure Options where
  outputDirectory : String := "./generated"
  runtimePath : String := Metadata.defaultRuntimePath
  docs : Bool := true
  blockBuilders : Bool := true
  stateBuilders : Bool := true
  moduleIndex : Bool := true
  deriving DecidableEq, Repr

end RowFactory.Generation
