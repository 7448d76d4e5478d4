import RowFactory.Source.Grammar
import RowFactory.Error
import RowFactory.Text.Letter

/-! # Factory markers

A marker `#[factory(table = "users")]` names the table of a factory. Discovery lets the last of several
tables count. The check that runs where the marker is compiled wants exactly one, and an item after it.
-/

namespace RowFactory.Source

open Code Code.Grammar

def markerName : String := "factory"

def tableArgument : String := "table"

inductive ArgumentFault where
  | malformed
  | unsupported
  | duplicate
  deriving DecidableEq, Repr

/-- The path of an argument; any word may stand in it. Gives the name if it is one word. -/
def argumentPath : Nat → Tokens → Option (Option String × Tokens)
  | 0, _ => none
  | fuel + 1, tokens =>
    match tokens with
    | .word w :: rest =>
      match symbol "::" rest with
      | some after => (argumentPath fuel after).map fun (_, rest) => (none, rest)
      | none => some (some w, rest)
    | _ => none

def argumentValue (tokens : Tokens) : Option (String × Tokens) :=
  match symbol "=" tokens with
  | some (.literal (.text value) _ :: rest) => some (value, rest)
  | _ => none

/-- Reads arguments up to the end. `found` is the table named before; with `once` there may be no
second one. -/
def readArguments (once : Bool) (found : Option String) :
    Nat → Tokens → Except ArgumentFault (Option String)
  | 0, _ => .error .malformed
  | fuel + 1, tokens =>
    let leading := isSymbol "::" tokens
    match argumentPath (tokens.length + 1) (if leading then tokens.drop 2 else tokens) with
    | none => .error .malformed
    | some (name, rest) =>
      if leading || name ≠ some tableArgument then .error .unsupported
      else if once && found.isSome then .error .duplicate
      else
        match argumentValue rest with
        | none => .error .malformed
        | some (value, []) => .ok (some value)
        | some (value, rest) =>
          match symbol "," rest with
          | none => .error .malformed
          | some [] => .ok (some value)
          | some rest => readArguments once (some value) fuel rest

def tableOf (once : Bool) (tokens : Tokens) : Except ArgumentFault (Option String) :=
  if tokens.isEmpty then .ok none else readArguments once none tokens.length tokens

namespace Attribute

def isMarker (a : Attribute) : Bool := a.path.getLast? = some markerName

def table (a : Attribute) : Except MarkerFault String :=
  match a.arguments with
  | none => .error .malformed
  | some tokens =>
    match tableOf false tokens with
    | .ok (some table) => if table.isEmpty then .error .emptyTable else .ok table
    | .ok none => .error .missingTable
    | .error .unsupported => .error .unsupportedArgument
    | .error _ => .error .malformed

end Attribute

inductive CheckFault where
  | duplicateTable
  | unsupportedArgument
  | missingTable
  | emptyTable
  | malformed
  deriving DecidableEq, Repr

namespace CheckFault

def message : CheckFault → String
  | .duplicateTable => "duplicate `table` argument"
  | .unsupportedArgument => "unsupported factory argument, expected `table = \"...\"`"
  | .missingTable => "missing `table = \"...\"` argument"
  | .emptyTable => "table name must not be empty"
  | .malformed => "malformed input"

end CheckFault

def checkArguments (arguments : Tokens) : Except CheckFault String :=
  match tableOf true arguments with
  | .error .duplicate => .error .duplicateTable
  | .error .unsupported => .error .unsupportedArgument
  | .error .malformed => .error .malformed
  | .ok none => .error .missingTable
  | .ok (some table) => if (Text.trimBlank table).isEmpty then .error .emptyTable else .ok table

/-- The item after a marker, with nothing after it, and whether it is kept as its tokens. -/
def checkItem (tokens : Tokens) : Except CheckFault (Item × Bool) :=
  match Grammar.item (fuelFor tokens) tokens with
  | some (item, kept, []) => .ok (item, kept)
  | _ => .error .malformed

def checkMarker (arguments tokens : Tokens) : Except CheckFault (Item × Bool) := do
  let _ ← checkArguments arguments
  checkItem tokens

end RowFactory.Source
