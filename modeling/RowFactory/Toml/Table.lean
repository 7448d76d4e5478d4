import RowFactory.Json.Document

/-! # Tables of settings

A text of settings gives its values one by one, each with the path of keys that leads to it. Tables come
about on the way: a heading opens one, a deeper heading implies those above it, and a dotted key makes
those that it runs through. What came about in one way cannot be filled in another.
-/

namespace RowFactory.Toml

inductive Form where
  | headed
  /-- By the heading of a table below it. -/
  | implied
  /-- By a dotted key. -/
  | dotted
  /-- Written as one value. -/
  | closed
  deriving DecidableEq, Repr

inductive Value where
  | text (text : String)
  | flag (value : Bool)
  | number (numeral : Json.Numeral)
  /-- A moment, an infinity or what is no number: nothing that a document holds. -/
  | special
  | array (items : List Value)
  | table (form : Form) (members : List (String × Value))
  /-- A list of tables, each with a heading. -/
  | tables (elements : List Value)
  deriving Repr

abbrev Members := List (String × Value)

structure Entry where
  path : List String
  value : Value

inductive Heading where
  | table (path : List String)
  | element (path : List String)

structure Section where
  heading : Heading
  entries : List Entry

def replaceValue (key : String) (value : Value) (members : Members) : Members :=
  members.map fun (k, v) => if k = key then (k, value) else (k, v)

/-- Adds a value below a table that a dotted key has run to, unless its place is taken. `direct` says that
the last table may be filled by a key without dots. -/
def assign (value : Value) (direct : Bool) : List String → Members → Option Members
  | [], _ => none
  | [key], members =>
    if direct ∧ (members.lookup key).isNone then some (members ++ [(key, value)]) else none
  | key :: next :: path, members =>
    match members.lookup key with
    | none => do
      let inner ← assign value true (next :: path) []
      return members ++ [(key, .table .dotted inner)]
    | some (.table form inner) =>
      if form = .implied ∨ form = .dotted then do
        let inner ← assign value (form = .dotted) (next :: path) inner
        return replaceValue key (.table form inner) members
      else none
    | some (.tables elements) =>
      match elements.getLast? with
      | some (.table form inner) => do
        let inner ← assign value false (next :: path) inner
        return replaceValue key (.tables (elements.dropLast ++ [.table form inner])) members
      | _ => none
    | some _ => none

def assignAll (entries : List Entry) (members : Members) : Option Members :=
  entries.foldlM (fun members e => assign e.value true e.path members) members

/-- Changes the table that a path of headings leads to. Of a list of tables the last one is meant. -/
def descend (change : Members → Option Members) : List String → Members → Option Members
  | [], members => change members
  | key :: path, members =>
    match members.lookup key with
    | none => do
      let inner ← descend change path []
      return members ++ [(key, .table .implied inner)]
    | some (.table .closed _) => none
    | some (.table form inner) => do
      let inner ← descend change path inner
      return replaceValue key (.table form inner) members
    | some (.tables elements) =>
      match elements.getLast? with
      | some (.table form inner) => do
        let inner ← descend change path inner
        return replaceValue key (.tables (elements.dropLast ++ [.table form inner])) members
      | _ => none
    | some _ => none

/-- Opens the table of a heading, which may have been implied before, and fills it. -/
def placeTable (key : String) (entries : List Entry) (members : Members) : Option Members :=
  match members.lookup key with
  | none => do
    let inner ← assignAll entries []
    return members ++ [(key, .table .headed inner)]
  | some (.table .implied inner) => do
    let inner ← assignAll entries inner
    return replaceValue key (.table .headed inner) members
  | some _ => none

def placeElement (key : String) (entries : List Entry) (members : Members) : Option Members := do
  let element ← assignAll entries []
  match members.lookup key with
  | none => return members ++ [(key, .tables [.table .headed element])]
  | some (.tables elements) =>
    return replaceValue key (.tables (elements ++ [.table .headed element])) members
  | some _ => none

def place (root : Members) (s : Section) : Option Members :=
  let run (path : List String) (put : String → List Entry → Members → Option Members) :=
    match path.getLast? with
    | some key => descend (put key s.entries) path.dropLast root
    | none => none
  match s.heading with
  | .table path => run path placeTable
  | .element path => run path placeElement

def assemble (entries : List Entry) (sections : List Section) : Option Members := do
  let root ← assignAll entries []
  sections.foldlM place root

mutual

def Value.toDocument : Value → Json.Document
  | .text text => .string text
  | .flag value => .bool value
  | .number numeral => .number numeral
  | .special => .faulty .malformed none
  | .array items => .array (itemDocuments items) .lenient
  | .table _ members => .object (memberDocuments members) .lenient
  | .tables elements => .array (itemDocuments elements) .lenient

def itemDocuments : List Value → List Json.Document
  | [] => []
  | item :: items => item.toDocument :: itemDocuments items

def memberDocuments : List (String × Value) → List (Json.Document × Json.Document)
  | [] => []
  | (key, value) :: members => (.string key, value.toDocument) :: memberDocuments members

end

end RowFactory.Toml
