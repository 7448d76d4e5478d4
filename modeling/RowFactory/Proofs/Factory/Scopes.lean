import RowFactory.Factory.Associations
import RowFactory.Factory.StateBuilder
import RowFactory.Fixtures.Tables
import RowFactory.Proofs.Factory.Keys

/-! # Names in the scopes of generated code

What a generated unit puts into one scope has different names: the members of a type, the parameters of a function, the
functions of a file, the methods of all implementations of a type and those of a trait. Names are compared without raw
marks.
-/

namespace RowFactory.Code

def Ty.name? : Ty → Option Ident
  | .named ⟨false, [⟨name, []⟩]⟩ _ => some name
  | _ => none

namespace Item

def membersOf (type : Ident) : Item → List Member
  | .struct _ _ name _ (some members) => if name = type then members else []
  | _ => []

/-- Functions of an implementation of the type that belongs to no trait. -/
def methodsOf (type : Ident) : Item → List Function
  | .implementation _ none target functions => if target.name? = some type then functions else []
  | _ => []

def traitMethodsOf (trait : Ident) : Item → List Function
  | .trait _ name _ _ functions => if name = trait then functions else []
  | _ => []

def function? : Item → Option Function
  | .function f => some f
  | _ => none

end Item

namespace Function

def name (f : Function) : String := f.signature.name.name

def parameterNames (f : Function) : List String := f.signature.parameters.map (·.1.name)

end Function

end RowFactory.Code

namespace RowFactory.Factory

open Code
open Metadata (Table Package)

variable {t : Table} {package : Package} {p : Plan}

namespace Plan

def blockMembers (p : Plan) : List Member := (blockUnit p).flatMap (·.membersOf p.blockBuilder)

def blockMethods (p : Plan) : List Function := (blockUnit p).flatMap (·.methodsOf p.blockBuilder)

def factoryFunctions (p : Plan) : List Function := (blockUnit p).filterMap (·.function?)

def stateMethods (p : Plan) : List Function := (stateUnit p).flatMap (·.methodsOf p.stateBuilder)

def associationMethods (p : Plan) : List Function := (blockUnit p).flatMap (·.traitMethodsOf p.associationsTrait)

end Plan

theorem blockMembers_eq (p : Plan) :
    p.blockMembers = p.fields.map blockMember ++
      if p.hasAssociations then [⟨false, associationsField, p.contextTy⟩] else [] := by
  have hAssociations : (associationItems p).flatMap (·.membersOf p.blockBuilder) = [] := by
    rw [associationItems]
    cases p.associations <;> rfl
  rw [Plan.blockMembers, blockUnit, List.flatMap_append, hAssociations]
  simp [blockBuilderItems, factoryItems, Item.membersOf]

def contextValues (p : Plan) : List (Ident × Expr) :=
  if p.hasAssociations then [(associationsField, .call (.path (p.contextPath.append ["new"])) [])] else []

theorem associationItems_flatMap_methodsOf (p : Plan) :
    (associationItems p).flatMap (·.methodsOf p.blockBuilder) = [] := by
  rw [associationItems]
  cases p.associations <;> rfl

/-- The methods of the builder that a block configures begin with its constructor and end with `build`. -/
theorem exists_blockMethods (p : Plan) :
    ∃ start build, p.blockMethods =
        start :: ((if p.hasAssociations then associateFunctions p else []) ++ traitFunctions p ++ [build]) ∧
      start.signature = { name := "new", parameters := p.constructorParameters, output := some (.ofIdent "Self") } ∧
      start.body = some [.give (.record (.ofIdent "Self") (p.fields.map initialValue ++ contextValues p) false)] ∧
      (build.signature = { name := "build", receiver := some .value, output := some (.ofPath p.record) }) ∧
      build.body = some (buildBody p) := by
  have hMethods (functions : List Function) :
      (Item.implementation none none (.ofIdent p.blockBuilder) functions).methodsOf p.blockBuilder = functions :=
    if_pos rfl
  obtain ⟨builder, start, build, hItems, hBuilder, hParts⟩ : ∃ builder start build,
      blockBuilderItems p = [builder, .implementation none none (.ofIdent p.blockBuilder)
        ([start] ++ (if p.hasAssociations then associateFunctions p else []) ++ traitFunctions p ++ [build])] ∧
      builder.methodsOf p.blockBuilder = [] ∧
      start.signature = { name := "new", parameters := p.constructorParameters, output := some (.ofIdent "Self") } ∧
      start.body = some [.give (.record (.ofIdent "Self") (p.fields.map initialValue ++ contextValues p) false)] ∧
      build.signature = { name := "build", receiver := some .value, output := some (.ofPath p.record) } ∧
      build.body = some (buildBody p) := ⟨_, _, _, rfl, rfl, rfl, rfl, rfl, rfl⟩
  refine ⟨start, build, ?_, hParts⟩
  rw [Plan.blockMethods, blockUnit, List.flatMap_append, associationItems_flatMap_methodsOf, List.append_nil,
    List.flatMap_append, hItems, List.flatMap_cons, List.flatMap_cons, hMethods, hBuilder]
  simp only [List.append_assoc, List.cons_append, List.nil_append]
  rfl

def startCall (p : Plan) : Expr :=
  .call (.names [p.blockBuilder, "new"]) (p.constructorFields.map fun f => .var f.ident)

/-- The two factory functions, of which one takes a callback behind its other parameters. -/
theorem exists_factoryFunctions (p : Plan) :
    ∃ plain withBlock type, p.factoryFunctions = [plain, withBlock] ∧
      (plain.name = p.factory.name ∧ withBlock.name = p.factoryWith.name) ∧
      plain.signature.parameters = p.constructorParameters ∧
      withBlock.signature.parameters = p.constructorParameters ++ [((blockParameter : Ident), type)] ∧
      plain.body = some [.give (.method (startCall p) "build" [] [])] ∧
      withBlock.body = some [.bind true "builder" (startCall p),
        .run (.call (.var blockParameter) [.borrow (.var "builder")]),
        .give (.method (.var "builder") "build" [] [])] := by
  have hAssociations : (associationItems p).filterMap (·.function?) = [] := by
    rw [associationItems]
    cases p.associations <;> rfl
  rw [Plan.factoryFunctions, blockUnit, List.filterMap_append, List.filterMap_append, hAssociations, List.append_nil]
  exact ⟨_, _, _, rfl, ⟨rfl, rfl⟩, rfl, rfl, rfl, rfl⟩

theorem map_name_setters (p : Plan) (slot : Nat) (fields : List Field) :
    (setters p slot fields).map (·.signature.name) = fields.map (·.setter) := by
  induction fields generalizing slot with
  | nil => rfl
  | cons f rest ih =>
    rw [setters]
    cases f.marker with
    | none => rw [List.map_cons, List.map_cons, ih]; rfl
    | some marker => rw [List.map_cons, List.map_cons, ih]; rfl

theorem name_stateMethods (p : Plan) :
    p.stateMethods.map (·.name) = "new" :: (p.fields.map (·.setter.name) ++ ["build"]) := by
  have hMarkers : (p.requiredFields.filterMap (markerItem p)).flatMap (·.methodsOf p.stateBuilder) = [] := by
    rw [List.flatMap_eq_nil_iff]
    intro item hItem
    obtain ⟨f, _, hItem⟩ := List.mem_filterMap.mp hItem
    obtain ⟨marker, _, rfl⟩ := Option.map_eq_some_iff.mp hItem
    rfl
  have hStates : (stateItems p).flatMap (·.methodsOf p.stateBuilder) = [] := by
    rw [stateItems, List.flatMap_append, List.flatMap_append, hMarkers]
    rfl
  have hName (state : Ty) : (p.builderIn state).name? = some p.stateBuilder := rfl
  have hMethods : p.stateMethods = newFunction p :: (setters p 0 p.fields ++ [buildFunction p]) := by
    rw [Plan.stateMethods, stateUnit, List.flatMap_append, hStates, stateBuilderItems]
    simp [Item.methodsOf, hName]
  have hSetters : (setters p 0 p.fields).map (·.name) = p.fields.map (·.setter.name) := by
    have hIdents := congrArg (List.map Ident.name) (map_name_setters p 0 p.fields)
    rw [List.map_map, List.map_map] at hIdents
    exact hIdents
  rw [hMethods, List.map_cons, List.map_append, hSetters]
  rfl

theorem associationMethods_eq (p : Plan) :
    p.associationMethods.map (·.signature) = p.associations.map associationSignature := by
  have hBlock : (blockBuilderItems p ++ factoryItems p).flatMap (·.traitMethodsOf p.associationsTrait) = [] := rfl
  rw [Plan.associationMethods, blockUnit, List.flatMap_append, hBlock, associationItems]
  cases p.associations with
  | nil => rfl
  | cons first rest => simp [Item.traitMethodsOf]

theorem Plan.Drafted.name_constructorParameters {docs : Bool} (h : p.Drafted t package docs) :
    p.constructorParameters.map (·.1.name) = t.constructorFields := by
  rw [Plan.constructorParameters, List.map_map, ← h.map_name_constructorFields]
  exact List.map_congr_left fun f hf => Code.ident_name (h.field_planned (List.mem_filter.mp hf).1).ident

namespace Plan.Keyed

theorem hasAssociations_eq (h : p.Keyed t package) : p.hasAssociations = !t.foreignKeys.isEmpty := by
  have hLength := h.associations.length_eq
  rw [hasAssociations]
  cases hKeys : t.foreignKeys <;> cases hMethods : p.associations <;> simp_all

theorem name_blockMembers (h : p.Keyed t package) :
    p.blockMembers.map (·.name.name) = t.fields ++ if t.foreignKeys.isEmpty then [] else [associationsField] := by
  have hFields : p.fields.map (·.ident.name) = t.fields := by
    rw [← h.names]
    exact List.map_congr_left h.regular.ident
  rw [blockMembers_eq, List.map_append, List.map_map, h.hasAssociations_eq]
  change p.fields.map (·.ident.name) ++ _ = _
  rw [hFields]
  cases t.foreignKeys.isEmpty <;> rfl

theorem nodup_blockMembers (h : p.Keyed t package) : (p.blockMembers.map (·.name.name)).Nodup := by
  have hFields : t.fields.Nodup := h.names ▸ h.regular.nodup
  rw [h.name_blockMembers]
  cases hKeys : t.foreignKeys.isEmpty with
  | true => simpa using hFields
  | false =>
    refine List.nodup_append.mpr ⟨hFields, List.nodup_singleton _, fun name hName other hOther => ?_⟩
    have hContext := h.no_context (by rw [h.hasAssociations_eq, hKeys]; rfl)
    rw [← h.names] at hName
    obtain ⟨f, hf, rfl⟩ := List.mem_map.mp hName
    rw [List.mem_singleton.mp hOther]
    exact hContext f hf

theorem nodup_parameters_block (h : p.Keyed t package) : (t.constructorFields ++ [blockParameter]).Nodup := by
  refine List.nodup_append.mpr ⟨h.nodup_constructorFields, List.nodup_singleton _, fun name hName other hOther => ?_⟩
  rw [← h.constructorFields] at hName
  obtain ⟨f, hf, rfl⟩ := List.mem_map.mp hName
  rw [List.mem_singleton.mp hOther]
  exact h.no_block f hf

theorem name_stateMethods (h : p.Keyed t package) :
    p.stateMethods.map (·.name) = "new" :: (t.fields.map ("with_" ++ ·) ++ ["build"]) := by
  have hSetters : p.fields.map (·.setter.name) = t.fields.map ("with_" ++ ·) := by
    rw [← h.names, List.map_map]
    exact List.map_congr_left h.regular.setter
  rw [Factory.name_stateMethods, hSetters]

theorem nodup_stateMethods (h : p.Keyed t package) : (p.stateMethods.map (·.name)).Nodup := by
  have hSetters : (t.fields.map ("with_" ++ ·)).Nodup :=
    List.Nodup.map (fun _ _ => String.append_right_inj _ |>.mp) (h.names ▸ h.regular.nodup)
  -- No setter begins as the other methods do.
  have hHead : ∀ name ∈ t.fields.map ("with_" ++ ·), name.toList.head? = some 'w' := by
    intro name hName
    obtain ⟨field, _, rfl⟩ := List.mem_map.mp hName
    rw [String.toList_append]
    rfl
  rw [h.name_stateMethods]
  refine List.nodup_cons.mpr ⟨?_, List.nodup_append.mpr ⟨hSetters, List.nodup_singleton _, ?_⟩⟩
  · rw [List.mem_append, not_or]
    exact ⟨fun hMem => absurd (hHead _ hMem) (by decide), by decide⟩
  · intro name hName other hLast hSame
    rw [hSame, List.mem_singleton.mp hLast] at hName
    exact absurd (hHead _ hName) (by decide)

theorem name_associationMethods (h : p.Keyed t package) :
    p.associationMethods.map (·.name) = t.foreignKeys.map (·.singularName) := by
  have hNames : p.associationMethods.map (·.name) = p.associations.map (·.method.name) := by
    have hSignatures := congrArg (List.map (·.name.name)) (associationMethods_eq p)
    rw [List.map_map, List.map_map] at hSignatures
    exact hSignatures
  rw [hNames]
  exact h.map_associations fun _ _ hKey => hKey.method

end Plan.Keyed

section Apart

variable {options : Generation.Options}

/-- Whatever package and options a plan is made from, no scope of the generated code has a name twice, if the table
is valid. -/
theorem scopes_apart (hValid : t.validate = .ok ()) (hPlan : Plan.ofTable t package options = .ok p) :
    (p.blockMembers.map (·.name.name) = t.fields ++ (if t.foreignKeys.isEmpty then [] else [associationsField]) ∧
      (p.blockMembers.map (·.name.name)).Nodup) ∧
    (∃ start rest, p.blockMethods = start :: rest ∧ start.name = "new" ∧ start.parameterNames = t.constructorFields ∧
      start.parameterNames.Nodup) ∧
    (∃ plain withBlock, p.factoryFunctions = [plain, withBlock] ∧ plain.parameterNames = t.constructorFields ∧
      plain.parameterNames.Nodup ∧ withBlock.parameterNames = t.constructorFields ++ [blockParameter] ∧
      withBlock.parameterNames.Nodup ∧ plain.name = t.singularName ∧ withBlock.name = t.singularName ++ "_with" ∧
      plain.name ≠ withBlock.name) ∧
    (p.stateMethods.map (·.name) = "new" :: (t.fields.map ("with_" ++ ·) ++ ["build"]) ∧
      (p.stateMethods.map (·.name)).Nodup) ∧
    p.associationMethods.map (·.name) = t.foreignKeys.map (·.singularName) ∧
      (p.associationMethods.map (·.name)).Nodup ∧ ∀ f ∈ p.associationMethods, f.name ∉ contextMethods := by
  have hKeyed := Plan.keyed_of_ofTable hValid hPlan
  have hDrafted := Plan.drafted (Plan.ofTable_eq_ok.mp hPlan).1
  have hParameters := hDrafted.name_constructorParameters
  have hMethods := hKeyed.name_associationMethods
  obtain ⟨start, build, hBlock, hStart, _⟩ := exists_blockMethods p
  obtain ⟨plain, withBlock, type, hFunctions, ⟨hFactory, hFactoryWith⟩, hPlain, hWithBlock, _⟩ :=
    exists_factoryFunctions p
  refine ⟨⟨hKeyed.name_blockMembers, hKeyed.nodup_blockMembers⟩, ?_, ?_,
    ⟨hKeyed.name_stateMethods, hKeyed.nodup_stateMethods⟩, hMethods, ?_, ?_⟩
  · have hNames : start.parameterNames = t.constructorFields := by
      rw [Function.parameterNames, hStart]
      exact hParameters
    refine ⟨start, _, hBlock, by rw [Function.name, hStart], hNames, ?_⟩
    rw [hNames]
    exact hKeyed.nodup_constructorFields
  · have hPlainNames : plain.parameterNames = t.constructorFields := by
      rw [Function.parameterNames, hPlain]
      exact hParameters
    have hBlockNames : withBlock.parameterNames = t.constructorFields ++ [blockParameter] := by
      rw [Function.parameterNames, hWithBlock, List.map_append, hParameters]
      rfl
    refine ⟨plain, withBlock, hFunctions, hPlainNames, ?_, hBlockNames, ?_, ?_, ?_, ?_⟩
    · rw [hPlainNames]
      exact hKeyed.nodup_constructorFields
    · rw [hBlockNames]
      exact hKeyed.nodup_parameters_block
    · rw [hFactory, Code.ident_name hDrafted.factory]
    · rw [hFactoryWith, Code.ident_name hDrafted.factoryWith]
    · rw [hFactory, hFactoryWith]
      exact hDrafted.factory_ne
  · rw [hMethods]
    exact hKeyed.nodup_singularNames
  · intro f hf
    have hMem : f.name ∈ p.associationMethods.map (·.name) := List.mem_map_of_mem hf
    rw [hMethods, ← hKeyed.map_associations fun _ _ hKey => hKey.method] at hMem
    obtain ⟨a, ha, hName⟩ := List.mem_map.mp hMem
    rw [← hName]
    exact hKeyed.methods a ha

theorem scopes_apart_comments :
    ∃ p, Plan.ofTable (Metadata.ofName Fixtures.catalog "comments") Fixtures.package {} = .ok p ∧
      p.blockMembers.map (·.name.name) = ["post_id", "user_id", "body", "associations"] ∧
      (p.blockMembers.map (·.name.name)).Nodup ∧ p.associationMethods.map (·.name) = ["post", "user"] ∧
      ∀ f ∈ p.associationMethods, f.name ∉ contextMethods := by
  have hValid : (Metadata.ofName Fixtures.catalog "comments").validate = .ok () := by decide +kernel
  obtain ⟨p, hPlan⟩ :
      ∃ p, Plan.ofTable (Metadata.ofName Fixtures.catalog "comments") Fixtures.package {} = .ok p :=
    Results.exists_eq_ok (by decide +kernel)
  obtain ⟨⟨hMembers, hApart⟩, _, _, _, hMethods, _, hContext⟩ := scopes_apart hValid hPlan
  refine ⟨p, hPlan, hMembers.trans (by decide +kernel), hApart, hMethods.trans (by decide +kernel), hContext⟩

end Apart

end RowFactory.Factory
