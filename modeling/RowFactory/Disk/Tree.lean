import RowFactory.Disk.Files

/-! # A model of a disk

A finite table of files and directories by their places. A place is the list of the names that lead to it
from the top; the top itself is always there.
-/

namespace RowFactory.Disk

inductive Content where
  | text (text : String)
  | bytes (bytes : List UInt8)
  deriving DecidableEq, Repr

inductive Node where
  | directory
  | file (content : Content)
  deriving DecidableEq, Repr

abbrev Place := List String

structure Tree where
  /-- By ascending place. -/
  nodes : List (Place × Node) := []
  home : Place := []
  deriving DecidableEq, Repr

def putNode (place : Place) (node : Node) : List (Place × Node) → List (Place × Node)
  | [] => [(place, node)]
  | (p, n) :: rest =>
    if place < p then (place, node) :: (p, n) :: rest
    else if place = p then (place, node) :: rest
    else (p, n) :: putNode place node rest

def isFileName (name : String) : Bool := name.utf8ByteSize ≤ 255 && !name.toList.contains '\x00'

def endsInDirectory (path : String) : Bool :=
  match path.toList.reverse with
  | '/' :: _ | '.' :: '/' :: _ => true
  | _ => false

namespace Tree

def node? (t : Tree) (place : Place) : Option Node :=
  if place = [] then some .directory else t.nodes.lookup place

def put (t : Tree) (place : Place) (node : Node) : Tree := { t with nodes := putNode place node t.nodes }

def remove (t : Tree) (place : Place) : Tree :=
  { t with nodes := t.nodes.filter fun (p, _) => !place.isPrefixOf p }

def step (place : Place) : Component → Place
  | .root => []
  | .current => place
  | .parent => place.dropLast
  | .name name => place ++ [name]

/-- Follows components from a place on. Every place on the way has to be a directory. -/
def follow (t : Tree) : Place → List Component → Option Place
  | place, [] => some place
  | place, c :: rest =>
    if t.node? place = some .directory ∧ isFileName c.text then follow t (step place c) rest else none

/-- Where a path leads; there need not be anything. The empty path leads nowhere. -/
def locate (t : Tree) (path : String) : Option Place :=
  if path.isEmpty then none else follow t t.home (Path.components path)

def nodeAt? (t : Tree) (path : String) : Option Node := do
  let node ← t.locate path >>= t.node?
  if node ≠ .directory ∧ endsInDirectory path then none else some node

def readText (t : Tree) (path : String) : Except String String :=
  match t.nodeAt? path with
  | some (.file (.text text)) => .ok text
  | some (.file (.bytes _)) => .error "the file holds no text"
  | some .directory => .error "there is a directory"
  | none => .error "there is no file"

def write (t : Tree) (path : String) (content : Content) : Except String Tree :=
  match t.locate path with
  | none => .error "there is no directory for the file"
  | some place =>
    if t.node? place = some .directory ∨ endsInDirectory path then .error "there is a directory"
    else .ok (t.put place (.file content))

def delete (t : Tree) (path : String) : Except String Tree :=
  match t.nodeAt? path, t.locate path with
  | some _, some place => .ok (t.remove place)
  | _, _ => .error "there is nothing"

/-- Makes the directories that are missing on the way, as far as it gets. -/
def makeWay (t : Tree) : Place → List Component → Tree × Bool
  | place, [] => (t, t.node? place = some .directory)
  | place, c :: rest =>
    if t.node? place = some .directory ∧ isFileName c.text then
      let next := step place c
      match t.node? next with
      | none => makeWay (t.put next .directory) next rest
      | some _ => makeWay t next rest
    else (t, false)

def createDirectories (t : Tree) (path : String) : Tree × Bool := t.makeWay t.home (Path.components path)

def place (t : Tree) (path : String) (content : Content) : Except String Tree :=
  ((t.createDirectories ((Path.parent? path).getD "")).1).write path content

def namesBelow? (place : Place) (p : Place) : Option (List String) :=
  if place.isPrefixOf p then some (p.drop place.length) else none

/-- The files below a place, by the paths that lead there. -/
def filesBelow (t : Tree) (place : Place) : List String :=
  t.nodes.filterMap fun (p, node) =>
    match node, namesBelow? place p with
    | .file _, some names => some (Path.ofParts names)
    | _, _ => none

def files (t : Tree) : List (String × Content) :=
  t.nodes.filterMap fun (p, node) =>
    match node, namesBelow? t.home p with
    | .file content, some names => some (Path.ofParts names, content)
    | _, _ => none

def changedSince (t before : Tree) : List String :=
  (t.files.filter fun (path, content) => before.files.lookup path ≠ some content).map (·.1)

def removedSince (t before : Tree) : List String :=
  (before.files.filter fun (path, _) => (t.files.lookup path).isNone).map (·.1)

end Tree

def changing (change : Tree → Except String Tree) : StateM Tree (Except String Unit) := fun t =>
  match change t with
  | .ok t => (.ok (), t)
  | .error reason => (.error reason, t)

instance : Files (StateM Tree) where
  isThere path := do return ((← get).nodeAt? path).isSome
  isDirectory path := do return (← get).nodeAt? path = some .directory
  isFile path := do
    match (← get).nodeAt? path with
    | some (.file _) => return true
    | _ => return false
  readText path := do return (← get).readText path
  writeText path text := changing fun t => t.write path (.text text)
  createDirectories path := fun t =>
    match t.createDirectories path with
    | (t, true) => (.ok (), t)
    | (t, false) => (.error "there is a file on the way", t)
  removeFile path := changing fun t =>
    match t.nodeAt? path, t.locate path with
    | some (.file _), some place => .ok (t.remove place)
    | _, _ => .error "there is no file"
  filesBelow path := do
    let t ← get
    match t.locate path with
    | some place => return .ok (t.filesBelow place)
    | none => return .error "there is no directory"

end RowFactory.Disk
