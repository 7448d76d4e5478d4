import Mathlib.Data.List.Basic
import RowFactory.Code.Path
import RowFactory.Code.Validity

/-! # Paths in their places

A path stands in a tree as a type, as a bound, or within an expression. A tree reads back if every path of it is allowed
in the place where it stands.
-/

namespace RowFactory.Code

inductive Place where
  | type
  | bound
  | expression
  deriving DecidableEq, Repr

section Each

variable (good : Place → Path → Prop)

mutual

/-- Every path of a type is good where it stands; `place` is where the type itself stands. -/
def Ty.Each (place : Place) : Ty → Prop
  | .named path arguments => good place path ∧ Ty.EachOfAll arguments
  | .tuple elements => Ty.EachOfAll elements
  | .reference _ target => target.Each .type
  | .slice element => element.Each .type
  | .satisfying bound _ => bound.Each .bound
  | .object bound => bound.Each .bound
  | .callOnce inputs output => Ty.EachOfAll inputs ∧ Ty.EachOfOutput output

def Ty.EachOfAll : List Ty → Prop
  | [] => True
  | t :: rest => t.Each .type ∧ Ty.EachOfAll rest

def Ty.EachOfOutput : Option Ty → Prop
  | none => True
  | some t => t.Each .type

end

mutual

def Expr.Each : Expr → Prop
  | .path p => good .expression p
  | .text _ => True
  | .field base _ => base.Each
  | .call callee arguments => callee.Each ∧ Expr.EachOfAll arguments
  | .method receiver _ types arguments => receiver.Each ∧ Ty.EachOfAll good types ∧ Expr.EachOfAll arguments
  | .borrow target => target.Each
  | .record p fields _ => good .expression p ∧ Expr.EachOfFields fields
  | .closure _ _ body => body.Each
  | .assign target value => target.Each ∧ value.Each

def Expr.EachOfAll : List Expr → Prop
  | [] => True
  | e :: rest => e.Each ∧ Expr.EachOfAll rest

def Expr.EachOfFields : List (Ident × Expr) → Prop
  | [] => True
  | (_, e) :: rest => e.Each ∧ Expr.EachOfFields rest

end

def Stmt.Each : Stmt → Prop
  | .bind _ _ value => value.Each good
  | .run e => e.Each good
  | .each _ value body => value.Each good ∧ ∀ e ∈ body, e.Each good
  | .give e => e.Each good

def Signature.Each (s : Signature) : Prop := (∀ p ∈ s.parameters, p.2.Each good .type) ∧ Ty.EachOfOutput good s.output

def Function.Each (f : Function) : Prop := f.signature.Each good ∧ ∀ s ∈ f.body.getD [], s.Each good

def TypeParameter.Each (p : TypeParameter) : Prop := ∀ bound ∈ p.bound, bound.Each good .bound

mutual

def Item.Each : Item → Prop
  | .struct _ _ _ parameters members =>
    (∀ p ∈ parameters, p.Each good) ∧ ∀ m ∈ members.getD [], m.type.Each good .type
  | .trait _ _ parameters parents functions =>
    (∀ p ∈ parameters, p.Each good) ∧ (∀ t ∈ parents, t.Each good .bound) ∧ ∀ f ∈ functions, f.Each good
  | .implementation parameters implemented target functions =>
    (∀ p ∈ parameters.getD [], p.Each good) ∧ (∀ t ∈ implemented, t.Each good .type) ∧ target.Each good .type ∧
      ∀ f ∈ functions, f.Each good
  | .alias _ _ target => target.Each good .type
  | .function f => f.Each good
  | .module _ items => Item.EachOfAll items
  | .declaration _ => True

def Item.EachOfAll : List Item → Prop
  | [] => True
  | item :: rest => item.Each ∧ Item.EachOfAll rest

end

end Each

section Lists

variable {good : Place → Path → Prop}

@[simp]
theorem Ty.eachOfAll_iff {list : List Ty} : Ty.EachOfAll good list ↔ ∀ t ∈ list, t.Each good .type := by
  induction list with
  | nil => simp [Ty.EachOfAll]
  | cons t rest ih => simp [Ty.EachOfAll, ih]

@[simp]
theorem Ty.eachOfOutput_iff {output : Option Ty} : Ty.EachOfOutput good output ↔ ∀ t ∈ output, t.Each good .type := by
  cases output <;> simp [Ty.EachOfOutput]

@[simp]
theorem Expr.eachOfAll_iff {list : List Expr} : Expr.EachOfAll good list ↔ ∀ e ∈ list, e.Each good := by
  induction list with
  | nil => simp [Expr.EachOfAll]
  | cons e rest ih => simp [Expr.EachOfAll, ih]

@[simp]
theorem Expr.eachOfFields_iff {fields : List (Ident × Expr)} :
    Expr.EachOfFields good fields ↔ ∀ f ∈ fields, f.2.Each good := by
  induction fields with
  | nil => simp [Expr.EachOfFields]
  | cons f rest ih => simp [Expr.EachOfFields, ih]

@[simp]
theorem Item.eachOfAll_iff {items : List Item} : Item.EachOfAll good items ↔ ∀ item ∈ items, item.Each good := by
  induction items with
  | nil => simp [Item.EachOfAll]
  | cons item rest ih => simp [Item.EachOfAll, ih]

@[simp]
theorem Stmt.each_bind {mutable : Bool} {name : Ident} {value : Expr} :
    (Stmt.bind mutable name value).Each good ↔ value.Each good := .rfl

@[simp]
theorem Stmt.each_run {e : Expr} : (Stmt.run e).Each good ↔ e.Each good := .rfl

@[simp]
theorem Stmt.each_each {name : Ident} {value : Expr} {body : List Expr} :
    (Stmt.each name value body).Each good ↔ value.Each good ∧ ∀ e ∈ body, e.Each good := .rfl

@[simp]
theorem Stmt.each_give {e : Expr} : (Stmt.give e).Each good ↔ e.Each good := .rfl

@[simp]
theorem Ty.each_ofPath {place : Place} {path : Path} : (Ty.ofPath path).Each good place ↔ good place path :=
  and_iff_left trivial

end Lists

/-- A word that does not begin a type, although it is read as a path. -/
def tryIdent : Ident := ⟨"try", false⟩

namespace Path

def IsPlain (p : Path) : Prop := ∀ s ∈ p.segments, s.arguments = []

/-- The path begins with a separator or with a word that begins a type. -/
def BeginsType (p : Path) : Prop := p.leading ∨ ∃ i rest, p.segments = ⟨i, []⟩ :: rest ∧ i ≠ tryIdent

theorem isPlain_ofIdent (i : Ident) : (Path.ofIdent i).IsPlain := by
  simp [IsPlain, ofIdent]

theorem isPlain_ofNames (leading : Bool) (names : List String) : (Path.ofNames leading names).IsPlain := by
  simp [IsPlain, ofNames]

end Path

/-- Plain names are good where they can stand at all. -/
structure AllowsNames (good : Place → Path → Prop) : Prop where
  expression : ∀ {p : Path}, p.IsPlain → good .expression p
  type : ∀ {p : Path}, p.IsPlain → p.BeginsType → ∀ place, good place p

namespace AllowsNames

variable {good : Place → Path → Prop}

theorem each_ofIdent (h : AllowsNames good) {i : Ident} (hi : i ≠ tryIdent) (place : Place) :
    (Ty.ofIdent i).Each good place :=
  Ty.each_ofPath.mpr (h.type (Path.isPlain_ofIdent i) (.inr ⟨i, [], rfl, hi⟩) place)

theorem each_apply (h : AllowsNames good) {name : String} (hName : (name : Ident) ≠ tryIdent) {argument : Ty}
    {place : Place} : (Ty.apply name [argument]).Each good place ↔ argument.Each good .type := by
  have hPath : good place (.ofIdent name) := h.type (Path.isPlain_ofIdent name) (.inr ⟨name, [], rfl, hName⟩) place
  rw [Ty.apply, Ty.Each, Ty.eachOfAll_iff, List.forall_mem_singleton]
  exact and_iff_right hPath

theorem each_var (h : AllowsNames good) (name : Ident) : (Expr.var name).Each good :=
  h.expression (Path.isPlain_ofIdent name)

theorem each_names (h : AllowsNames good) (list : List Ident) : (Expr.names list).Each good :=
  h.expression (by simp [Path.IsPlain])

end AllowsNames

def readsAt : Place → Path → Prop
  | .type, p => p.readsAsType
  | .bound, _ => True
  | .expression, p => p.readsAsExpr

def Place.ofBound (isBound : Bool) : Place := if isBound then .bound else .type

theorem Path.readsAsType_iff {p : Path} :
    p.readsAsType ↔ p.leading ∨ ∃ s rest, p.segments = s :: rest ∧ s.ident ≠ tryIdent := by
  rw [Path.readsAsType]
  cases p.segments <;> simp [tryIdent]

theorem Path.IsPlain.readsAsExpr {p : Path} (h : p.IsPlain) : p.readsAsExpr := by
  refine List.all_eq_true.mpr fun s hs => ?_
  rw [Segment.isExplicit, h s hs]

theorem allowsNames_readsAt : AllowsNames readsAt where
  expression := Path.IsPlain.readsAsExpr
  type := by
    intro p hPlain hBegins place
    cases place with
    | type =>
      refine Path.readsAsType_iff.mpr (hBegins.imp_right ?_)
      rintro ⟨i, rest, hSegments, hi⟩
      exact ⟨_, rest, hSegments, hi⟩
    | bound => trivial
    | expression => exact hPlain.readsAsExpr

mutual

theorem Ty.reads_iff (isBound : Bool) : (t : Ty) →
    (t.reads isBound ↔ t.Each readsAt (Place.ofBound isBound))
  | .named path arguments => by
    have hPath : (isBound || path.readsAsType) = true ↔ readsAt (Place.ofBound isBound) path := by
      cases isBound <;> simp [Place.ofBound, readsAt]
    rw [Ty.reads, Ty.Each, Bool.and_eq_true, hPath, Ty.allRead_iff arguments]
  | .tuple elements => by
    rw [Ty.reads, Ty.Each, Ty.allRead_iff elements]
  | .reference _ target => by
    rw [Ty.reads, Ty.Each, Ty.reads_iff false target]
    rfl
  | .slice element => by
    rw [Ty.reads, Ty.Each, Ty.reads_iff false element]
    rfl
  | .satisfying bound _ => by
    rw [Ty.reads, Ty.Each, Ty.reads_iff true bound]
    rfl
  | .object bound => by
    rw [Ty.reads, Ty.Each, Ty.reads_iff true bound]
    rfl
  | .callOnce inputs output => by
    rw [Ty.reads, Ty.Each, Bool.and_eq_true, Ty.allRead_iff inputs, Ty.outputReads_iff output]

theorem Ty.allRead_iff : (list : List Ty) → (Ty.allRead list ↔ Ty.EachOfAll readsAt list)
  | [] => iff_of_true rfl trivial
  | t :: rest => by
    rw [Ty.allRead, Ty.EachOfAll, Bool.and_eq_true, Ty.reads_iff false t, Ty.allRead_iff rest]
    rfl

theorem Ty.outputReads_iff : (output : Option Ty) → (Ty.outputReads output ↔ Ty.EachOfOutput readsAt output)
  | none => iff_of_true rfl trivial
  | some t => by
    rw [Ty.outputReads, Ty.EachOfOutput, Ty.reads_iff false t]
    rfl

end

mutual

theorem Expr.reads_iff : (e : Expr) → (e.reads ↔ e.Each readsAt)
  | .path _ => .rfl
  | .text _ => iff_of_true rfl trivial
  | .field base _ => Expr.reads_iff base
  | .call callee arguments => by
    rw [Expr.reads, Expr.Each, Bool.and_eq_true, Expr.reads_iff callee, Expr.allRead_iff arguments]
  | .method receiver _ types arguments => by
    rw [Expr.reads, Expr.Each, Bool.and_eq_true, Bool.and_eq_true, Expr.reads_iff receiver, Ty.allRead_iff types,
      Expr.allRead_iff arguments, and_assoc]
  | .borrow target => Expr.reads_iff target
  | .record _ fields _ => by
    rw [Expr.reads, Expr.Each, Bool.and_eq_true, Expr.fieldsRead_iff fields]
    rfl
  | .closure _ _ body => Expr.reads_iff body
  | .assign target value => by
    rw [Expr.reads, Expr.Each, Bool.and_eq_true, Expr.reads_iff target, Expr.reads_iff value]

theorem Expr.allRead_iff : (list : List Expr) → (Expr.allRead list ↔ Expr.EachOfAll readsAt list)
  | [] => iff_of_true rfl trivial
  | e :: rest => by
    rw [Expr.allRead, Expr.EachOfAll, Bool.and_eq_true, Expr.reads_iff e, Expr.allRead_iff rest]

theorem Expr.fieldsRead_iff : (fields : List (Ident × Expr)) →
    (Expr.fieldsRead fields ↔ Expr.EachOfFields readsAt fields)
  | [] => iff_of_true rfl trivial
  | (_, e) :: rest => by
    rw [Expr.fieldsRead, Expr.EachOfFields, Bool.and_eq_true, Expr.reads_iff e, Expr.fieldsRead_iff rest]

end

theorem Stmt.reads_iff (s : Stmt) : s.reads ↔ s.Each readsAt := by
  cases s with
  | bind mutable name value => exact value.reads_iff
  | run e => exact e.reads_iff
  | each name value body =>
    rw [Stmt.reads, Stmt.each_each, Bool.and_eq_true, value.reads_iff, List.all_eq_true]
    exact and_congr_right' (forall₂_congr fun e _ => e.reads_iff)
  | give e => exact e.reads_iff

theorem Signature.reads_iff (s : Signature) : s.reads ↔ s.Each readsAt := by
  rw [Signature.reads, Signature.Each, Bool.and_eq_true, Ty.outputReads_iff, List.all_eq_true]
  exact and_congr_left' (forall₂_congr fun p _ => p.2.reads_iff false)

theorem Function.reads_iff (f : Function) : f.reads ↔ f.Each readsAt := by
  rw [Function.reads, Function.Each, Bool.and_eq_true, f.signature.reads_iff, List.all_eq_true]
  exact and_congr_right' (forall₂_congr fun s _ => s.reads_iff)

theorem TypeParameter.reads_iff (p : TypeParameter) : p.reads ↔ p.Each readsAt := by
  rw [TypeParameter.reads, TypeParameter.Each]
  cases p.bound with
  | none => simp
  | some bound => simpa [Place.ofBound] using bound.reads_iff true

theorem allRead_functions (functions : List Function) :
    functions.all Function.reads ↔ ∀ f ∈ functions, f.Each readsAt := by
  rw [List.all_eq_true]
  exact forall₂_congr fun f _ => f.reads_iff

theorem allRead_parameters (parameters : List TypeParameter) :
    parameters.all TypeParameter.reads ↔ ∀ p ∈ parameters, p.Each readsAt := by
  rw [List.all_eq_true]
  exact forall₂_congr fun p _ => p.reads_iff

mutual

theorem Item.reads_iff : (item : Item) → (item.reads ↔ item.Each readsAt)
  | .struct _ _ _ parameters members => by
    rw [Item.reads, Item.Each, Bool.and_eq_true, allRead_parameters, List.all_eq_true]
    exact and_congr_right' (forall₂_congr fun m _ => m.type.reads_iff false)
  | .trait _ _ parameters parents functions => by
    rw [Item.reads, Item.Each, Bool.and_eq_true, Bool.and_eq_true, allRead_parameters, allRead_functions,
      List.all_eq_true, and_assoc]
    exact and_congr_right' (and_congr_left' (forall₂_congr fun t _ => t.reads_iff true))
  | .implementation parameters implemented target functions => by
    have hImplemented : implemented.all (Ty.reads false) ↔ ∀ t ∈ implemented, t.Each readsAt .type := by
      cases implemented with
      | none => simp
      | some t => simpa [Place.ofBound] using t.reads_iff false
    rw [Item.reads, Item.Each, Bool.and_eq_true, Bool.and_eq_true, Bool.and_eq_true, allRead_parameters, hImplemented,
      allRead_functions, target.reads_iff false, and_assoc, and_assoc]
    rfl
  | .alias _ _ target => target.reads_iff false
  | .function f => f.reads_iff
  | .module _ items => Item.allRead_iff items
  | .declaration _ => iff_of_true rfl trivial

theorem Item.allRead_iff : (items : List Item) → (Item.allRead items ↔ Item.EachOfAll readsAt items)
  | [] => iff_of_true rfl trivial
  | item :: rest => by
    rw [Item.allRead, Item.EachOfAll, Bool.and_eq_true, Item.reads_iff item, Item.allRead_iff rest]

end

end RowFactory.Code
