import RowFactory.Code.Grammar

/-! # Trees of generated code

The types, expressions and items that generated code is made of, and no others.
-/

namespace RowFactory.Code

inductive Ty where
  | named (path : Path) (arguments : List Ty)
  | tuple (elements : List Ty)
  | reference (mutable : Bool) (target : Ty)
  | slice (element : Ty)
  /-- Some type with a trait, which may have to own all its data. -/
  | satisfying (bound : Ty) (owned : Bool)
  | object (bound : Ty)
  /-- The trait of functions that are called once. -/
  | callOnce (inputs : List Ty) (output : Option Ty)
  deriving Repr

namespace Ty

def ofPath (path : Path) : Ty := .named path []

def ofIdent (name : Ident) : Ty := .ofPath ⟨false, [⟨name, []⟩]⟩

def apply (name : String) (arguments : List Ty) : Ty := .named ⟨false, [⟨name, []⟩]⟩ arguments

def unit : Ty := .tuple []

end Ty

structure TypeParameter where
  name : Ident
  bound : Option Ty
  deriving Repr

inductive Expr where
  | path (path : Path)
  | text (value : String)
  | field (base : Expr) (name : Ident)
  | call (callee : Expr) (arguments : List Expr)
  | method (receiver : Expr) (name : Ident) (types : List Ty) (arguments : List Expr)
  | borrow (target : Expr)
  /-- A record; what is not listed has its default value if `filled`. -/
  | record (path : Path) (fields : List (Ident × Expr)) (filled : Bool)
  /-- A function without a name, whose body may stand in braces. -/
  | closure (parameters : List Ident) (braced : Bool) (body : Expr)
  | assign (target value : Expr)
  deriving Repr

namespace Expr

def var (name : Ident) : Expr := .path ⟨false, [⟨name, []⟩]⟩

def self : Expr := .var "self"

def names (list : List Ident) : Expr := .path ⟨false, list.map fun i => ⟨i, []⟩⟩

def var? : Expr → Option Ident
  | .path ⟨false, [⟨name, []⟩]⟩ => some name
  | _ => none

end Expr

inductive Stmt where
  | bind (mutable : Bool) (name : Ident) (value : Expr)
  | run (expr : Expr)
  | each (name : Ident) (value : Expr) (body : List Expr)
  /-- The value of the block. -/
  | give (expr : Expr)
  deriving Repr

inductive Receiver where
  | value
  /-- By value, to be changed. -/
  | ownValue
  /-- By reference, to be changed. -/
  | reference
  deriving DecidableEq, Repr

structure Signature where
  name : Ident
  receiver : Option Receiver := none
  parameters : List (Ident × Ty) := []
  output : Option Ty := none
  deriving Repr

structure Function where
  doc : Option String := none
  exported : Bool := false
  signature : Signature
  /-- A function of a trait may have none. -/
  body : Option (List Stmt)
  deriving Repr

structure Member where
  exported : Bool := false
  name : Ident
  type : Ty
  deriving Repr

inductive Item where
  | struct (doc : Option String) (attributes : List String) (name : Ident)
      (parameters : List TypeParameter) (members : Option (List Member))
  | trait (doc : Option String) (name : Ident) (parameters : List TypeParameter) (parents : List Ty)
      (functions : List Function)
  /-- The brackets of type parameters may be there without any. -/
  | implementation (parameters : Option (List TypeParameter)) (trait : Option Ty) (target : Ty)
      (functions : List Function)
  | alias (doc : Option String) (name : Ident) (target : Ty)
  | function (f : Function)
  | module (name : Ident) (items : List Item)
  /-- A module of another file. -/
  | declaration (name : Ident)
  deriving Repr

mutual

def Ty.compact : Ty → String
  | .named path arguments =>
    let segments := path.segments.map fun s => s.ident.text ++ "".intercalate (s.arguments.map Token.text)
    (if path.leading then "::" else "") ++ "::".intercalate segments ++
      match arguments with
      | [] => ""
      | _ => "<" ++ ",".intercalate (Ty.compactAll arguments) ++ ">"
  | .tuple elements => "(" ++ "".intercalate ((Ty.compactAll elements).map (· ++ ",")) ++ ")"
  | .reference mutable target => (if mutable then "&mut" else "&") ++ target.compact
  | .slice element => "[" ++ element.compact ++ "]"
  | .satisfying bound owned => "impl" ++ bound.compact ++ (if owned then "+'static" else "")
  | .object bound => "dyn" ++ bound.compact
  | .callOnce inputs output =>
    "FnOnce(" ++ ",".intercalate (Ty.compactAll inputs) ++ ")" ++ Ty.compactOutput output

def Ty.compactAll : List Ty → List String
  | [] => []
  | t :: rest => t.compact :: Ty.compactAll rest

def Ty.compactOutput : Option Ty → String
  | none => ""
  | some t => "->" ++ t.compact

end

def TypeParameter.compact (p : TypeParameter) : String :=
  match p.bound with
  | some bound => p.name.text ++ ":" ++ bound.compact
  | none => p.name.text

end RowFactory.Code
