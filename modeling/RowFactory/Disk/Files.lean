import RowFactory.Disk.Path

/-! # Access to files

What the program needs to know about a disk and what it does to one. The same steps run on a real disk and
on a model of it.
-/

namespace RowFactory.Disk

class Files (m : Type → Type) where
  isThere : String → m Bool
  isDirectory : String → m Bool
  isFile : String → m Bool
  readText : String → m (Except String String)
  writeText : String → String → m (Except String Unit)
  /-- Makes a directory together with those above it. -/
  createDirectories : String → m (Except String Unit)
  removeFile : String → m (Except String Unit)
  /-- The files below a directory, by their paths from it. Names in a directory ascend, and a directory
  stands where its name stands. -/
  filesBelow : String → m (Except String (List String))

end RowFactory.Disk
