/-! # File paths

A path is a text whose parts are divided by slashes. Repeated slashes, a slash at the end, and points
that stand for the directory at hand make no difference, except for a point at the very beginning.
-/

namespace RowFactory.Disk

inductive Component where
  | root
  | current
  | parent
  | name (text : String)
  deriving DecidableEq, Repr

namespace Component

def text : Component → String
  | .root => "/"
  | .current => "."
  | .parent => ".."
  | .name text => text

def rank : Component → Nat
  | .root => 0
  | .current => 1
  | .parent => 2
  | .name _ => 3

/-- The root comes first, then points, then names in their order. -/
def before (a b : Component) : Bool :=
  match a, b with
  | .name s, .name t => s < t
  | _, _ => a.rank < b.rank

end Component

namespace Path

def pieces (piece : List Char) : List Char → List (List Char)
  | [] => [piece.reverse]
  | '/' :: rest => piece.reverse :: pieces [] rest
  | c :: rest => pieces (c :: piece) rest

def isAbsolute (path : String) : Bool := path.toList.head? = some '/'

/-- The component that a piece is; `first` says that the path begins with it. -/
def component? (first : Bool) (piece : List Char) : Option Component :=
  match piece with
  | [] => none
  | ['.'] => if first then some .current else none
  | ['.', '.'] => some .parent
  | _ => some (.name (String.ofList piece))

def components (path : String) : List Component :=
  let body :=
    match pieces [] path.toList with
    | [] => []
    | first :: rest => (component? true first).toList ++ rest.filterMap (component? false)
  if isAbsolute path then .root :: body else body

def same (a b : String) : Bool := components a = components b

def componentsBefore : List Component → List Component → Bool
  | _, [] => false
  | [], _ :: _ => true
  | a :: as, b :: bs => a.before b || (a = b && componentsBefore as bs)

def before (a b : String) : Bool := componentsBefore (components a) (components b)

def le (a b : String) : Bool := !before b a

/-- A path below a directory; an absolute path stands for itself. -/
def join (directory path : String) : String :=
  if isAbsolute path then path
  else if directory.isEmpty || directory.toList.getLast? = some '/' then directory ++ path
  else directory ++ "/" ++ path

def ofParts (parts : List String) : String := parts.foldl join ""

def fileName? (path : String) : Option String :=
  match (components path).getLast? with
  | some (.name text) => some text
  | _ => none

/-- A name as what stands before and after its last point. A point at the beginning does not count. -/
def splitName (name : String) : String × Option String :=
  let chars := name.toList.reverse
  let after := chars.takeWhile (· ≠ '.')
  match chars.dropWhile (· ≠ '.') with
  | '.' :: c :: rest => (String.ofList (c :: rest).reverse, some (String.ofList after.reverse))
  | _ => (name, none)

def fileStem? (path : String) : Option String := (fileName? path).map fun name => (splitName name).1

def extension? (path : String) : Option String := fileName? path >>= fun name => (splitName name).2

/-- Pieces in reverse without those at the front that are no components. -/
def trim : List (List Char) → List (List Char)
  | [] => []
  | piece :: rest =>
    if (component? rest.isEmpty piece).isSome then piece :: rest else trim rest

def ofPieces (pieces : List (List Char)) : String := String.ofList (['/'].intercalate pieces.reverse)

/-- The text of pieces in reverse, with the root that a path has. -/
def rooted (path : String) (reversed : List (List Char)) : String :=
  match reversed with
  | [] => if isAbsolute path then "/" else ""
  | _ => ofPieces reversed

/-- The directory of a path; the root and the empty path have none. -/
def parent? (path : String) : Option String :=
  match trim (pieces [] path.toList).reverse with
  | [] => none
  | _ :: rest => some (rooted path (trim rest))

def endAtStem (path : String) : String :=
  match fileStem? path, trim (pieces [] path.toList).reverse with
  | some stem, _ :: rest => ofPieces (stem.toList :: rest)
  | _, _ => path

/-- The path without the last point of its name and what follows. The point is dropped after the extension,
so that what is left of `..rs` is no name any more but the directory above. -/
def dropExtension (path : String) : String :=
  match extension? path with
  | some ending => endAtStem (String.ofList (path.toList.take (path.length - ending.length)))
  | none => endAtStem path

end Path

end RowFactory.Disk
