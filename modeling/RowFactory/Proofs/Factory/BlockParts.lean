import RowFactory.Command.Run
import RowFactory.Proofs.Factory.Keys
import RowFactory.Proofs.Factory.Scopes

/-! # Parts of a builder that fit together

The struct, its constructor, `build` and the factory functions are each written from the fields of a plan. They agree on
the parameters that a constructor has, and on what each field is.
-/

namespace RowFactory.Factory

open Code
open Metadata (Table Package)

structure FieldParts where
  field : Field
  /-- In the struct. -/
  member : Member
  /-- In the record that a new builder is. -/
  initial : Ident × Expr
  /-- In the record that `build` gives. -/
  value : Ident × Expr

def FieldParts.of (p : Plan) (f : Field) : FieldParts := ⟨f, blockMember f, initialValue f, recordValue p f⟩

/-- All that the code has for a field goes by its name. A parameter of the constructor is converted, kept and wrapped;
any other field begins empty and is given as it is, unless it is a foreign key, which is given from a local. -/
structure FieldParts.Fit (t : Table) (parts : FieldParts) : Prop where
  member : parts.member.name = parts.field.ident
  initial : parts.initial.1 = parts.field.ident
  value : parts.value.1 = parts.field.ident
  inConstructor : parts.field.inConstructor = (parts.field.required && !t.isForeignKey parts.field.name)
  ofConstructor : parts.field.inConstructor →
    parts.member.type = .ofPath (valuePath parts.field.kind) ∧
      parts.initial.2 = .method (.var parts.field.ident) "into" [] [] ∧
      parts.value.2 = .call (.var "Some") [.field .self parts.field.ident]
  ofOther : parts.field.inConstructor = false →
    parts.member.type = .apply "Option" [.ofPath (valuePath parts.field.kind)] ∧
      parts.initial.2 = .var "None" ∧
      parts.value.2 = if t.isForeignKey parts.field.name then .var parts.field.ident else .field .self parts.field.ident

def bound? : Stmt → Option Ident
  | .bind _ name _ => some name
  | _ => none

variable {t : Table} {package : Package} {docs : Bool} {p : Plan}

namespace Plan.Drafted

theorem inConstructor_eq (h : p.Drafted t package docs) {f : Field} (hf : f ∈ p.fields) :
    f.inConstructor = (f.required && !t.isForeignKey f.name) := by
  rw [Field.inConstructor, isForeignKey_eq (h.field_planned hf)]

theorem fit (h : p.Drafted t package docs) {f : Field} (hf : f ∈ p.fields) : (FieldParts.of p f).Fit t := by
  have hConstructor := h.inConstructor_eq hf
  have hAssociation := h.isSome_association? f.name
  constructor
  case member => rfl
  case initial => rfl
  case value => rfl
  case inConstructor => exact hConstructor
  case ofConstructor =>
    intro (hIn : f.inConstructor)
    have hOther : t.isForeignKey f.name = false := by
      rw [hIn] at hConstructor
      simpa using (Bool.and_eq_true_iff.mp hConstructor.symm).2
    simp [FieldParts.of, blockMember, initialValue, recordValue, hIn, hAssociation, hOther]
  case ofOther =>
    intro (hOut : f.inConstructor = false)
    simp [FieldParts.of, blockMember, initialValue, recordValue, hOut, hAssociation]

/-- A foreign key has a local of its name, and no other field has one. -/
theorem bound_keyLocals (h : p.Drafted t package docs) :
    (p.fields.filterMap (keyLocal? p)).map bound? =
      (p.fields.filter fun f => t.isForeignKey f.name).map fun f => some f.ident := by
  generalize p.fields = fields
  induction fields with
  | nil => rfl
  | cons f rest ih =>
    have hAssociation := h.isSome_association? f.name
    rw [List.filterMap_cons, List.filter_cons, keyLocal?]
    cases hFound : p.association? f.name with
    | none =>
      rw [hFound] at hAssociation
      rw [← hAssociation]
      exact ih
    | some a =>
      rw [hFound] at hAssociation
      rw [← hAssociation]
      exact congrArg (some f.ident :: ·) ih

end Plan.Drafted

theorem length_constructorFields (t : Table) :
    t.constructorFields.length + (t.required.filter (t.isForeignKey ·)).length = t.required.length := by
  rw [Table.constructorFields, Nat.add_comm]
  exact (List.length_eq_length_filter_add _).symm

def callOf (p : Plan) (start : Function) : Expr :=
  .call (.names [p.blockBuilder, start.signature.name])
    (start.signature.parameters.map fun parameter => .var parameter.1)

/-- The factory functions take what the constructor takes and hand it on, in the order that an inspection shows. -/
structure ParametersFit (t : Table) (p : Plan) (start plain withBlock : Function) : Prop where
  names : start.parameterNames = t.constructorFields
  inspected (style : Command.Style) :
    Command.labelled style 12 "constructor" (", ".intercalate start.parameterNames) ∈ Command.describe style t
  arity : start.signature.parameters.length + (t.required.filter (t.isForeignKey ·)).length = t.required.length
  plainParameters : plain.signature.parameters = start.signature.parameters
  blockParameters :
    ∃ type, withBlock.signature.parameters = start.signature.parameters ++ [((blockParameter : Ident), type)]
  plainCall : plain.body = some [.give (.method (callOf p start) "build" [] [])]
  blockCall : ∃ rest, withBlock.body = some (.bind true "builder" (callOf p start) :: rest)

/-- The struct, the constructor and `build` have one part for each field, in its place. -/
structure FieldsFit (t : Table) (p : Plan) (start build : Function) (parts : List FieldParts) (locals : List Stmt) :
    Prop where
  names : p.fields.map (·.name) = t.fields
  fields : parts.map (·.field) = p.fields
  members : p.blockMembers = parts.map (·.member) ++
    if p.hasAssociations then [⟨false, associationsField, p.contextTy⟩] else []
  initial : start.body = some [.give (.record (.ofIdent "Self") (parts.map (·.initial) ++ contextValues p) false)]
  value : build.body = some (locals ++ [.give (.record p.record (parts.map (·.value)) true)])
  locals : locals.map bound? = (p.fields.filter fun f => t.isForeignKey f.name).map fun f => some f.ident
  fit : ∀ part ∈ parts, part.Fit t

theorem parametersFit (h : p.Drafted t package docs) {start plain withBlock : Function} {type : Ty}
    (hStart : start.signature =
      { name := "new", parameters := p.constructorParameters, output := some (.ofIdent "Self") })
    (hPlain : plain.signature.parameters = p.constructorParameters)
    (hWithBlock : withBlock.signature.parameters = p.constructorParameters ++ [((blockParameter : Ident), type)])
    (hPlainCall : plain.body = some [.give (.method (startCall p) "build" [] [])]) {rest : List Stmt}
    (hBlockCall : withBlock.body = some (.bind true "builder" (startCall p) :: rest)) :
    ParametersFit t p start plain withBlock := by
  have hNames : start.parameterNames = t.constructorFields := by
    rw [Function.parameterNames, hStart]
    exact h.name_constructorParameters
  have hCall : startCall p = callOf p start := by
    rw [startCall, callOf, hStart, Plan.constructorParameters, List.map_map]
    rfl
  constructor
  case names => exact hNames
  case inspected =>
    intro style
    rw [hNames, Command.describe]
    simp
  case arity => rw [← length_constructorFields t, ← hNames, Function.parameterNames, List.length_map]
  case plainParameters => rw [hPlain, hStart]
  case blockParameters => exact ⟨type, by rw [hWithBlock, hStart]⟩
  case plainCall => rw [hPlainCall, hCall]
  case blockCall => exact ⟨rest, hCall ▸ hBlockCall⟩

theorem fieldsFit (h : p.Drafted t package docs) {start build : Function}
    (hInitial : start.body =
      some [.give (.record (.ofIdent "Self") (p.fields.map initialValue ++ contextValues p) false)])
    (hValue : build.body = some (buildBody p)) :
    FieldsFit t p start build (p.fields.map (FieldParts.of p)) (p.fields.filterMap (keyLocal? p)) := by
  constructor
  case names => exact h.map_name_fields
  case fields =>
    rw [List.map_map]
    exact List.map_id' p.fields
  case members =>
    rw [blockMembers_eq, List.map_map]
    rfl
  case initial =>
    rw [hInitial, List.map_map]
    rfl
  case value =>
    rw [hValue, buildBody, List.map_map]
    rfl
  case locals => exact h.bound_keyLocals
  case fit =>
    intro part hPart
    obtain ⟨f, hf, rfl⟩ := List.mem_map.mp hPart
    exact h.fit hf

/-- The separately written parts of a builder fit together, for every table and package that a plan could be made of. -/
theorem block_parts_fit {options : Generation.Options} (hPlan : Plan.ofTable t package options = .ok p) :
    ∃ (start build plain withBlock : Function) (inner : List Function) (parts : List FieldParts) (locals : List Stmt),
      (p.blockMethods = start :: (inner ++ [build]) ∧ start.name = "new" ∧ build.name = "build") ∧
      (p.factoryFunctions = [plain, withBlock] ∧ plain.name = t.singularName ∧
        withBlock.name = t.singularName ++ "_with") ∧
      ParametersFit t p start plain withBlock ∧ FieldsFit t p start build parts locals := by
  have hDrafted := Plan.drafted (Plan.ofTable_eq_ok.mp hPlan).1
  obtain ⟨start, build, hMethods, hStart, hInitial, hBuild, hValue⟩ := exists_blockMethods p
  obtain ⟨plain, withBlock, type, hFunctions, ⟨hFactory, hFactoryWith⟩, hPlain, hWithBlock, hPlainCall, hBlockCall⟩ :=
    exists_factoryFunctions p
  refine ⟨start, build, plain, withBlock, _, _, _, ⟨hMethods, ?_, ?_⟩, ⟨hFunctions, ?_, ?_⟩,
    parametersFit hDrafted hStart hPlain hWithBlock hPlainCall hBlockCall, fieldsFit hDrafted hInitial hValue⟩
  · rw [Function.name, hStart]
  · rw [Function.name, hBuild]
  · rw [hFactory, Code.ident_name hDrafted.factory]
  · rw [hFactoryWith, Code.ident_name hDrafted.factoryWith]

theorem block_parts_fit_comments :
    ∃ p start plain withBlock, Plan.ofTable (Metadata.ofName Fixtures.catalog "comments") Fixtures.package {} = .ok p ∧
      ParametersFit (Metadata.ofName Fixtures.catalog "comments") p start plain withBlock ∧
      start.parameterNames = ["body"] := by
  obtain ⟨p, hPlan⟩ :
      ∃ p, Plan.ofTable (Metadata.ofName Fixtures.catalog "comments") Fixtures.package {} = .ok p :=
    Results.exists_eq_ok (by decide +kernel)
  obtain ⟨start, build, plain, withBlock, inner, parts, locals, _, _, hParameters, _⟩ := block_parts_fit hPlan
  exact ⟨p, start, plain, withBlock, hPlan, hParameters, hParameters.names.trans (by decide +kernel)⟩

end RowFactory.Factory
