import RowFactory.Run.Types
import RowFactory.Run.Value

/-! # What generated expressions give

An expression gives a value for a scope. It changes nothing; an expression that is
not meant to be evaluated gives nothing.
-/

namespace RowFactory.Run

open Code
open Rows (Defaults Row)

variable {σ : Type}

/-- Values of names, the innermost first. -/
abbrev Scope (σ : Type) := List (String × Value σ)

/-- What calls give in a unit, all of whose defaults are of one record type. -/
structure Calls (σ : Type) where
  /-- The function of a name that a type has, or that belongs to no type. -/
  function : Option Ty → String → List (Value σ) → Option (Value σ)
  defaults : Defaults

def plainNames (path : Path) : List String := path.segments.map (·.ident.name)

/-- The path of a constructor of contexts, whatever its support library. -/
def isNewContext (names : List String) : Bool :=
  match names.reverse with
  | "new" :: "AssociationContext" :: _ => true
  | _ => false

/-- What a name or a constant gives. No variable has the name of a constant. -/
def constant (scope : Scope σ) (names : List String) : Option (Value σ) :=
  match names with
  | ["core", "marker", "PhantomData"] => some .unit
  | ["None"] => some .absent
  | [name] => scope.lookup name
  | _ => none

def callPath (calls : Calls σ) (path : Path) (arguments : List (Value σ)) : Option (Value σ) :=
  let names := plainNames path
  if isNewContext names then some (.context {})
  else
    match names, arguments with
    | ["Some"], [v] => some (.present v)
    | ["Default", "default"], [] => some (.object .unit (Value.members calls.defaults.columns))
    | [type, name], _ => calls.function (some (.ofIdent type)) name arguments
    | [name], _ => calls.function none name arguments
    | _, _ => none

def associatedRow (types : List Ty) (key : String) : Value σ → Option (Value σ)
  | .context c =>
    match types, c.row? key with
    | [.named type []], some row =>
      if row.type = type then some (.present (.ofRow row)) else some .absent
    | _, _ => some .absent
  | _ => none

mutual

def value (calls : Calls σ) (scope : Scope σ) : Expr → Option (Value σ)
  | .path path => constant scope (plainNames path)
  | .text text => some (.datum (.text text))
  | .field base name => value calls scope base >>= Value.member? name.name
  | .call (.path path) arguments => values calls scope arguments >>= callPath calls path
  | .method receiver ⟨"into", _⟩ _ [] => value calls scope receiver
  | .method receiver ⟨"or_else", _⟩ _ [.closure [] _ body] =>
    match value calls scope receiver with
    | some .absent => value calls scope body
    | other => other
  | .method receiver ⟨"and_then", _⟩ _ [.closure [name] _ body] =>
    match value calls scope receiver with
    | some (.present v) => value calls ((name.name, v) :: scope) body
    | other => other
  | .method receiver ⟨"get", _⟩ types [.text key] =>
    value calls scope receiver >>= associatedRow types key
  | .method receiver name _ arguments => do
    let self ← value calls scope receiver
    let arguments ← values calls scope arguments
    match self with
    | .object type _ => calls.function (some type) name.name (self :: arguments)
    | _ => none
  | .record path fields filled => do
    let base := if filled then Value.members calls.defaults.columns else []
    let members ← fieldValues calls scope base fields
    return .object (.ofPath path) members
  | _ => none

def values (calls : Calls σ) (scope : Scope σ) : List Expr → Option (List (Value σ))
  | [] => some []
  | e :: rest => do
    let v ← value calls scope e
    let vs ← values calls scope rest
    return v :: vs

/-- The members of a record; those that are not listed are the ones of its base. -/
def fieldValues (calls : Calls σ) (scope : Scope σ) (base : List (String × Value σ)) :
    List (Ident × Expr) → Option (List (String × Value σ))
  | [] => some base
  | (name, e) :: rest => do
    let v ← value calls scope e
    let members ← fieldValues calls scope base rest
    return Ascending.put name.name v members

end

end RowFactory.Run
