import RowFactory.Proofs.Factory.Keys
import RowFactory.Proofs.Run.Evaluation
import RowFactory.Proofs.Run.StateLookup

/-! # Functions of a builder that a block configures

The builder has its functions whatever the fields of its table are, those for associations if the table has
references, and its context has one method for each of them.
-/

namespace RowFactory.Run

open Code
open Factory (Plan Association contextValues)

/-- A type without parameters has a function with the given signature and body. -/
def Offers (items : List Item) (type : Ty) (signature : Signature) (body : List Stmt) : Prop :=
  ∃ f, method? items type signature.name.name = some ⟨type, [], f⟩ ∧ f.signature = signature ∧ f.body = some body

def blockFunctions (p : Plan) : List Function :=
  match Factory.blockBuilderItems p with
  | [_, .implementation _ _ _ functions] => functions
  | _ => []

theorem exists_blockBuilderItems (p : Plan) : ∃ doc attributes members, Factory.blockBuilderItems p =
    [.struct doc attributes p.blockBuilder [] members,
      .implementation none none (.ofIdent p.blockBuilder) (blockFunctions p)] :=
  ⟨_, _, _, rfl⟩

theorem aliases_blockUnit (p : Plan) : aliases (Factory.blockUnit p) = [] := by
  rw [Factory.blockUnit, Factory.associationItems, aliases]
  cases p.associations <;> rfl

section

variable {p : Plan} (hNames : WellNamed (Factory.blockUnit p))

include hNames

theorem method?_blockUnit {name : String} {f : Function}
    (h : (blockFunctions p).find? (·.signature.name.name = name) = some f) :
    method? (Factory.blockUnit p) (blockType p) name = some ⟨blockType p, [], f⟩ := by
  obtain ⟨doc, attributes, members, hItems⟩ := exists_blockBuilderItems p
  have hMatch : matchType [] (Substitution.apply [] (.ofIdent p.blockBuilder)) (blockType p) = some [] := by
    rw [Ty.ofIdent, Substitution.apply_nil_ofPath, blockType, Ty.ofIdent, matchType_ofPath]
  have hMethod : methodIn? [] (blockType p) name
      (.implementation none none (.ofIdent p.blockBuilder) (blockFunctions p)) = some ⟨blockType p, [], f⟩ := by
    rw [methodIn?_implementation, h, Option.getD_none, List.map_nil, hMatch]
    rfl
  have hStruct : methodIn? [] (blockType p) name (.struct doc attributes p.blockBuilder [] members) = none := rfl
  rw [method?_eq hNames, aliases_blockUnit, Factory.blockUnit, hItems, List.append_assoc, List.cons_append,
    List.findSome?_cons, hStruct, List.cons_append, List.findSome?_cons, hMethod]

theorem offers_of_find? {signature : Signature} {body : List Stmt}
    (h : ∃ f, (blockFunctions p).find? (·.signature.name.name = signature.name.name) = some f ∧
      f.signature = signature ∧ f.body = some body) :
    Offers (Factory.blockUnit p) (blockType p) signature body := by
  obtain ⟨f, hFind, hRest⟩ := h
  exact ⟨f, method?_blockUnit hNames hFind, hRest⟩

theorem offers_build : Offers (Factory.blockUnit p) (blockType p)
    { name := "build", receiver := some .value, output := some (.ofPath p.record) } (Factory.buildBody p) := by
  apply offers_of_find? hNames
  rw [blockFunctions, Factory.blockBuilderItems]
  cases p.hasAssociations <;> exact ⟨_, rfl, rfl, rfl⟩

theorem offers_associate (h : p.hasAssociations) : Offers (Factory.blockUnit p) (blockType p)
    { name := "associate"
      receiver := some .reference
      parameters := [("block", .satisfying (.callOnce [.reference true p.contextTy] none) false)]
      output := some Factory.selfReference }
    [.run (.call (.var "block") [.borrow (.field .self Factory.associationsField)]), .give .self] := by
  apply offers_of_find? hNames
  rw [blockFunctions, Factory.blockBuilderItems, h]
  exact ⟨_, rfl, rfl, rfl⟩

theorem offers_persistWith (h : p.hasAssociations) : Offers (Factory.blockUnit p) (blockType p)
    { name := "persist_with"
      receiver := some .reference
      parameters := [("persister", .satisfying (p.runtimeTrait "Persist" []) true)]
      output := some Factory.selfReference }
    [.run (.method (.field .self Factory.associationsField) "set_persister" [] [.var "persister"]), .give .self] := by
  apply offers_of_find? hNames
  rw [blockFunctions, Factory.blockBuilderItems, h]
  exact ⟨_, rfl, rfl, rfl⟩

theorem offers_new : Offers (Factory.blockUnit p) (blockType p)
    { name := "new", parameters := p.constructorParameters, output := some (.ofIdent "Self") }
    [.give (.record (.ofIdent "Self") (p.fields.map Factory.initialValue ++ contextValues p) false)] := by
  apply offers_of_find? hNames
  rw [blockFunctions, Factory.blockBuilderItems]
  exact ⟨_, rfl, rfl, rfl⟩

end

def associationFunction (a : Association) : Function where
  signature := Factory.associationSignature a
  body := some [.run (.method .self "associate_with_persist" [] [.text a.field, .var "block"])]

theorem exists_associationItems {p : Plan} {a : Association} (ha : a ∈ p.associations) :
    ∃ doc functions, Factory.associationItems p =
      [.trait doc p.associationsTrait [] [] functions,
        .implementation none (some (.ofIdent p.associationsTrait)) p.contextTy
          (p.associations.map associationFunction)] := by
  rw [Factory.associationItems]
  cases hAssociations : p.associations with
  | nil => cases hAssociations ▸ ha
  | cons first rest => exact ⟨_, _, rfl⟩

/-- The builder's own functions are none of a context. -/
theorem methodIn?_blockBuilder {p : Plan} (hOther : p.contextTy ≠ .ofIdent p.blockBuilder) (name : String)
    (functions : List Function) :
    methodIn? [] p.contextTy name (.implementation none none (.ofIdent p.blockBuilder) functions) = none := by
  have hNone : matchType [] (.ofIdent p.blockBuilder) p.contextTy = none := by
    rw [← not_ne_iff, matchType_ofIdent List.not_mem_nil]
    exact hOther
  rw [methodIn?_implementation, Ty.ofIdent, Substitution.apply_nil_ofPath, Option.getD_none, List.map_nil]
  rw [Ty.ofIdent] at hNone
  rw [hNone]
  rfl

theorem contextTy_ne_ofIdent (p : Plan) (i : Ident) : p.contextTy ≠ .ofIdent i := by
  simp [Plan.contextTy, Ty.ofIdent, Ty.ofPath]

theorem offers_association {p : Plan} (hNames : WellNamed (Factory.blockUnit p))
    (h : (p.associations.map (·.method.name)).Nodup) {a : Association} (ha : a ∈ p.associations) :
    Offers (Factory.blockUnit p) p.contextTy (Factory.associationSignature a)
      [.run (.method .self "associate_with_persist" [] [.text a.field, .var "block"])] := by
  obtain ⟨_, _, _, hBlock⟩ := exists_blockBuilderItems p
  obtain ⟨doc, functions, hItems⟩ := exists_associationItems ha
  have hMatch : matchType [] (Substitution.apply [] p.contextTy) p.contextTy = some [] := by
    rw [Plan.contextTy, Substitution.apply_named, Substitution.apply_nil_ofPath, matchType_named, matchType_ofPath]
  have hFind : (p.associations.map associationFunction).find? (·.signature.name.name = a.method.name) =
      some (associationFunction a) := by
    rw [List.find?_map]
    exact congrArg (Option.map associationFunction) (Factory.find?_of_nodup h ha)
  have hMethod : methodIn? [] p.contextTy a.method.name (.implementation none (some (.ofIdent p.associationsTrait))
      p.contextTy (p.associations.map associationFunction)) = some ⟨p.contextTy, [], associationFunction a⟩ := by
    rw [methodIn?_implementation, hFind, Option.getD_none, List.map_nil, hMatch]
    rfl
  -- Neither the builder nor the factory functions are about the context.
  have hBuilder : (Factory.blockBuilderItems p ++ Factory.factoryItems p).findSome?
      (methodIn? [] p.contextTy a.method.name) = none := by
    rw [hBlock, Factory.factoryItems]
    simp only [List.findSome?_append, List.findSome?_cons, methodIn?_blockBuilder (contextTy_ne_ofIdent p _)]
    rfl
  refine ⟨associationFunction a, ?_, rfl, rfl⟩
  rw [method?_eq hNames, aliases_blockUnit, Factory.blockUnit, List.findSome?_append, Factory.associationSignature,
    hBuilder, hItems]
  simp only [List.findSome?_cons, hMethod]
  rfl

end RowFactory.Run
