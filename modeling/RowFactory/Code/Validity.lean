import RowFactory.Code.Tree

/-! # Trees that read back

A tree reads back if all its names are names and every path of it is allowed where it stands. A path that
was read from a text need not be allowed in every position: within an expression generic arguments need a
separator before them, and a type does not begin with every word that a path may begin with.
-/

namespace RowFactory.Code

namespace Segment

def isExplicit (s : Segment) : Bool :=
  match s.arguments with
  | [] => true
  | .mark ':' _ :: _ => true
  | _ => false

end Segment

namespace Path

def readsAsExpr (p : Path) : Bool := p.segments.all Segment.isExplicit

def readsAsType (p : Path) : Bool :=
  p.leading ||
    match p.segments with
    | s :: _ => s.ident ≠ ⟨"try", false⟩
    | [] => false

end Path

mutual

/-- A type reads back; `isBound` says that it stands as a trait. -/
def Ty.reads (isBound : Bool) : Ty → Bool
  | .named p arguments => (isBound || p.readsAsType) && Ty.allRead arguments
  | .tuple elements => Ty.allRead elements
  | .reference _ target => target.reads false
  | .slice element => element.reads false
  | .satisfying bound _ => bound.reads true
  | .object bound => bound.reads true
  | .callOnce inputs output => Ty.allRead inputs && Ty.outputReads output

def Ty.allRead : List Ty → Bool
  | [] => true
  | t :: rest => t.reads false && Ty.allRead rest

def Ty.outputReads : Option Ty → Bool
  | none => true
  | some t => t.reads false

end

mutual

def Expr.reads : Expr → Bool
  | .path p => p.readsAsExpr
  | .text _ => true
  | .field base _ => base.reads
  | .call callee arguments => callee.reads && Expr.allRead arguments
  | .method receiver _ types arguments =>
    receiver.reads && Ty.allRead types && Expr.allRead arguments
  | .borrow target => target.reads
  | .record p fields _ => p.readsAsExpr && Expr.fieldsRead fields
  | .closure _ _ body => body.reads
  | .assign target value => target.reads && value.reads

def Expr.allRead : List Expr → Bool
  | [] => true
  | e :: rest => e.reads && Expr.allRead rest

def Expr.fieldsRead : List (Ident × Expr) → Bool
  | [] => true
  | (_, e) :: rest => e.reads && Expr.fieldsRead rest

end

def Stmt.reads : Stmt → Bool
  | .bind _ _ value => value.reads
  | .run e => e.reads
  | .each _ value body => value.reads && body.all Expr.reads
  | .give e => e.reads

def Signature.reads (s : Signature) : Bool :=
  s.parameters.all (·.2.reads false) && Ty.outputReads s.output

def Function.reads (f : Function) : Bool :=
  f.signature.reads && (f.body.getD []).all Stmt.reads

def TypeParameter.reads (p : TypeParameter) : Bool := p.bound.all (Ty.reads true)

mutual

def Item.reads : Item → Bool
  | .struct _ _ _ parameters members =>
    parameters.all TypeParameter.reads && (members.getD []).all (·.type.reads false)
  | .trait _ _ parameters parents functions =>
    parameters.all TypeParameter.reads && parents.all (Ty.reads true) && functions.all Function.reads
  | .implementation parameters implemented target functions =>
    (parameters.getD []).all TypeParameter.reads && implemented.all (Ty.reads false) && target.reads false &&
      functions.all Function.reads
  | .alias _ _ target => target.reads false
  | .function f => f.reads
  | .module _ items => Item.allRead items
  | .declaration _ => true

def Item.allRead : List Item → Bool
  | [] => true
  | item :: rest => item.reads && Item.allRead rest

end

def Path.isNamed (p : Path) : Bool := p.segments.all (·.ident.standsInPath)

mutual

def Ty.isNamed : Ty → Bool
  | .named p arguments => p.isNamed && Ty.allNamed arguments
  | .tuple elements => Ty.allNamed elements
  | .reference _ target => target.isNamed
  | .slice element => element.isNamed
  | .satisfying bound _ => bound.isNamed
  | .object bound => bound.isNamed
  | .callOnce inputs output => Ty.allNamed inputs && Ty.outputNamed output

def Ty.allNamed : List Ty → Bool
  | [] => true
  | t :: rest => t.isNamed && Ty.allNamed rest

def Ty.outputNamed : Option Ty → Bool
  | none => true
  | some t => t.isNamed

end

mutual

def Expr.isNamed : Expr → Bool
  | .path p => p.isNamed
  | .text _ => true
  | .field base name => name.isName && base.isNamed
  | .call callee arguments => callee.isNamed && Expr.allNamed arguments
  | .method receiver name types arguments =>
    name.isName && receiver.isNamed && Ty.allNamed types && Expr.allNamed arguments
  | .borrow target => target.isNamed
  | .record p fields _ => p.isNamed && Expr.fieldsNamed fields
  | .closure parameters _ body => parameters.all Ident.isName && body.isNamed
  | .assign target value => target.isNamed && value.isNamed

def Expr.allNamed : List Expr → Bool
  | [] => true
  | e :: rest => e.isNamed && Expr.allNamed rest

def Expr.fieldsNamed : List (Ident × Expr) → Bool
  | [] => true
  | (name, e) :: rest => name.isName && e.isNamed && Expr.fieldsNamed rest

end

def Stmt.isNamed : Stmt → Bool
  | .bind _ name value => name.isName && value.isNamed
  | .run e => e.isNamed
  | .each name value body => name.isName && value.isNamed && body.all Expr.isNamed
  | .give e => e.isNamed

def Signature.isNamed (s : Signature) : Bool :=
  s.name.isName && s.parameters.all (fun p => p.1.isName && p.2.isNamed) && Ty.outputNamed s.output

def Function.isNamed (f : Function) : Bool :=
  f.signature.isNamed && (f.body.getD []).all Stmt.isNamed

def TypeParameter.isNamed (p : TypeParameter) : Bool := p.name.isName && p.bound.all Ty.isNamed

def Member.isNamed (m : Member) : Bool := m.name.isName && m.type.isNamed

mutual

def Item.isNamed : Item → Bool
  | .struct _ _ name parameters members =>
    name.isName && parameters.all TypeParameter.isNamed && (members.getD []).all Member.isNamed
  | .trait _ name parameters parents functions =>
    name.isName && parameters.all TypeParameter.isNamed && parents.all Ty.isNamed &&
      functions.all Function.isNamed
  | .implementation parameters implemented target functions =>
    (parameters.getD []).all TypeParameter.isNamed && implemented.all Ty.isNamed && target.isNamed &&
      functions.all Function.isNamed
  | .alias _ name target => name.isName && target.isNamed
  | .function f => f.isNamed
  | .module name items => name.isName && Item.allNamed items
  | .declaration name => name.isName

def Item.allNamed : List Item → Bool
  | [] => true
  | item :: rest => item.isNamed && Item.allNamed rest

end

end RowFactory.Code
