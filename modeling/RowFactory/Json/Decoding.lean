import RowFactory.Json.Document

/-! # Wanted values in documents

A decoder takes a document and gives the value it stands for. Decoders go through a document in its own
order, so that of two faults the earlier one is met.
-/

namespace RowFactory.Json

abbrev Decoder (α : Type) := Document → Except Error α

def mismatch {α : Type} (d : Document) (wanted : String) : Except Error α := do
  let found ← d.describe
  throw (.mismatch s!"invalid type: {found}, expected {wanted}")

def decodeText : Decoder String
  | .string text => .ok text
  | d => mismatch d "a string"

def decodeFlag : Decoder Bool
  | .bool value => .ok value
  | d => mismatch d "a boolean"

def decodeOption {α : Type} (decode : Decoder α) : Decoder (Option α)
  | .null => .ok none
  | d => some <$> decode d

def Ending.finish (ending : Ending) : Except Error Unit :=
  match ending.fault? with
  | some fault => .error (.fault fault)
  | none => .ok ()

def decodeList {α : Type} (decode : Decoder α) : Decoder (List α)
  | .array items ending => do
    let values ← items.mapM decode
    ending.finish
    return values
  | d => mismatch d "a sequence"

def decodeKey : Decoder String
  | .string text => .ok text
  | d => mismatch d "field identifier"

/-- Goes through the members of a record. `place` says what to do with a known key; the value of an
unknown key is passed over. -/
def decodeMembers {σ : Type} (place : String → Option (σ → Document → Except Error σ)) :
    List (Document × Document) → σ → Except Error σ
  | [], s => .ok s
  | (key, value) :: rest, s => do
    let name ← decodeKey key
    match place name with
    | some step => decodeMembers place rest (← step s value)
    | none => do
      value.skip
      decodeMembers place rest s

/-- Fills an empty place; a place that is taken is named twice. -/
def fillPlace {α : Type} (name : String) (decode : Decoder α) (place : Option α) (d : Document) :
    Except Error (Option α) :=
  match place with
  | some _ => .error (.mismatch s!"duplicate field `{name}`")
  | none => some <$> decode d

def requirePlace {α : Type} (name : String) : Option α → Except Error α
  | some value => .ok value
  | none => .error (.mismatch s!"missing field `{name}`")

/-- The values of a list that stands for a record: what is left of them, and how the list ends. -/
structure Positional where
  items : List Document
  ending : Ending

namespace Positional

def next {α : Type} (decode : Decoder α) (p : Positional) : Except Error (Option α × Positional) :=
  match p.items with
  | item :: items => do
    let value ← decode item
    return (some value, { p with items })
  | [] => do
    p.ending.finish
    return (none, p)

def require {α : Type} (decode : Decoder α) (position : Nat) (record : String) (p : Positional) :
    Except Error (α × Positional) := do
  match ← p.next decode with
  | (some value, p) => return (value, p)
  | (none, _) => throw (.mismatch s!"invalid length {position}, expected {record}")

def optional {α : Type} (decode : Decoder α) (default : α) (p : Positional) :
    Except Error (α × Positional) := do
  let (value, p) ← p.next decode
  return (value.getD default, p)

def finish (p : Positional) (taken : Nat) : Except Error Unit :=
  match p.items, p.ending with
  | _, .lenient => .ok ()
  | [], .closed => .ok ()
  | [], .whole => .ok ()
  | rest, .whole =>
    .error (.mismatch s!"invalid length {taken + rest.length}, expected fewer elements in array")
  | [], .cut fault => .error (.fault fault)
  | _, _ => .error (.fault .malformed)

end Positional

/-- A record, written as an object of members or as a list of its values in order. -/
def decodeRecord {σ α : Type} (record : String) (place : String → Option (σ → Document → Except Error σ))
    (start : σ) (build : σ → Except Error α) (inOrder : Positional → Except Error (α × Positional))
    (size : Nat) : Decoder α
  | .object members ending => do
    let s ← decodeMembers place members start
    ending.finish
    build s
  | .array items ending => do
    let (value, left) ← inOrder ⟨items, ending⟩
    left.finish size
    return value
  | d => mismatch d s!"struct {record}"

def decodeWhole {α : Type} (decode : Decoder α) (reading : Document × Bool) : Except Error α := do
  let value ← decode reading.1
  if reading.2 then throw (.fault .malformed)
  return value

end RowFactory.Json
