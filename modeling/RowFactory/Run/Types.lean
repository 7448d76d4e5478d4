import RowFactory.Run.Names

/-! # Types of generated code

Which functions a value has depends on its type: those of every implementation whose target, with types
for its parameters, is that type. A unit whose names do not all mean one thing has no functions.
-/

namespace RowFactory.Run

open Code

abbrev Substitution := List (Ident × Ty)

namespace Substitution

/-- The type for a name that stands alone. -/
def find? (s : Substitution) (path : Path) : Option Ty :=
  match path with
  | ⟨false, [⟨name, []⟩]⟩ => s.lookup name
  | _ => none

mutual

def apply (s : Substitution) : Ty → Ty
  | .named path [] => (s.find? path).getD (.named path [])
  | .named path arguments => .named path (applyAll s arguments)
  | .tuple elements => .tuple (applyAll s elements)
  | .reference mutable target => .reference mutable (apply s target)
  | .slice element => .slice (apply s element)
  | .satisfying bound owned => .satisfying (apply s bound) owned
  | .object bound => .object (apply s bound)
  | .callOnce inputs none => .callOnce (applyAll s inputs) none
  | .callOnce inputs (some output) => .callOnce (applyAll s inputs) (some (apply s output))

def applyAll (s : Substitution) : List Ty → List Ty
  | [] => []
  | t :: rest => apply s t :: applyAll s rest

end

end Substitution

mutual

/-- Types for parameters that make a pattern into a type. Only names and tuples occur in patterns. -/
def matchType (parameters : List Ident) : Ty → Ty → Option Substitution
  | .named path [], type =>
    match path with
    | ⟨false, [⟨name, []⟩]⟩ =>
      if parameters.contains name then some [(name, type)]
      else
        match type with
        | .named path' [] => if path = path' then some [] else none
        | _ => none
    | _ =>
      match type with
      | .named path' [] => if path = path' then some [] else none
      | _ => none
  | .named path arguments, .named path' arguments' =>
    if path = path' then matchTypes parameters arguments arguments' else none
  | .tuple elements, .tuple elements' => matchTypes parameters elements elements'
  | _, _ => none

def matchTypes (parameters : List Ident) : List Ty → List Ty → Option Substitution
  | [], [] => some []
  | pattern :: patterns, type :: types => do
    let first ← matchType parameters pattern type
    let rest ← matchTypes parameters patterns types
    return first ++ rest
  | _, _ => none

end

def aliases (items : List Item) : Substitution :=
  items.filterMap fun item =>
    match item with
    | .alias _ name target => some (name, target)
    | _ => none

structure Method where
  /-- The type of the values, and types for the parameters of the implementation. -/
  target : Ty
  parameters : Substitution
  function : Function

def methodIn? (aliases : Substitution) (type : Ty) (name : String) : Item → Option Method
  | .implementation parameters _ target functions => do
    let s ← matchType ((parameters.getD []).map (·.name)) (aliases.apply target) type
    let function ← functions.find? (·.signature.name.name = name)
    return ⟨type, s, function⟩
  | _ => none

def method? (items : List Item) (type : Ty) (name : String) : Option Method :=
  if WellNamed items then items.findSome? (methodIn? (aliases items) type name) else none

def function? (items : List Item) (name : String) : Option Function :=
  if WellNamed items then
    items.findSome? fun item =>
      match item with
      | .function f => if f.signature.name.name = name then some f else none
      | _ => none
  else none

/-- The type that the result of a function has by its signature. -/
def Method.resultType? (m : Method) : Option Ty :=
  match m.function.signature.output with
  | some (.reference _ _) => none
  | some output => some (Substitution.apply (("Self", m.target) :: m.parameters) output)
  | none => none

end RowFactory.Run
