import RowFactory.Proofs.Factory.Scopes
import RowFactory.Proofs.Factory.StateNames
import RowFactory.Run.Builder

/-! # Names of generated units

The unit of a builder that keeps its state in its type can be used if its items have different names. In the unit of a
builder that a block configures, a column that is a variable may have the name of a variant, and so may the factory
function: the plan does not keep them apart.
-/

namespace RowFactory.Code

open Run (Mention)

theorem Expr.mentionsOfAll_eq (list : List Expr) : Expr.mentionsOfAll list = list.flatMap Expr.mentions := by
  induction list with
  | nil => rfl
  | cons e rest ih => rw [Expr.mentionsOfAll, ih, List.flatMap_cons]

theorem Expr.mentionsOfFields_eq (fields : List (Ident × Expr)) :
    Expr.mentionsOfFields fields = fields.flatMap (·.2.mentions) := by
  induction fields with
  | nil => rfl
  | cons f rest ih => rw [Expr.mentionsOfFields, ih, List.flatMap_cons]

@[simp] theorem Expr.mentions_var (name : Ident) : (Expr.var name).mentions = [.uses name.name] := by
  rw [Expr.var, Expr.mentions, Path.mentions]

@[simp] theorem Expr.mentions_self : Expr.self.mentions = [.uses "self"] := Expr.mentions_var "self"

theorem Expr.mentions_names (first second : Ident) : (Expr.names [first, second]).mentions = [] := by
  rw [Expr.names, Expr.mentions]
  rfl

theorem Path.mentions_eq_nil {path : Path} (h : path.segments.length ≠ 1) : path.mentions = [] := by
  unfold Path.mentions
  split
  · exact absurd rfl h
  · rfl

end RowFactory.Code

namespace RowFactory.Factory

open Code

theorem mentions_initialValue (f : Field) :
    (initialValue f).2.mentions = [.uses (if f.inConstructor then f.ident.name else "None")] := by
  rw [initialValue]
  split <;> simp [Expr.mentions, Expr.mentionsOfAll]

theorem mentions_keyLocal (f : Field) (a : Association) : (keyLocal f a).mentions =
    [.binds f.ident.name, .uses "self", .uses "self", .binds "associated", .uses "associated"] := by
  simp [keyLocal, Stmt.mentions, Expr.mentions, Expr.mentionsOfAll]

theorem mentions_recordValue (p : Plan) (f : Field) : (recordValue p f).2.mentions =
    if (p.association? f.name).isSome then [.uses f.ident.name]
    else if f.inConstructor then [.uses "Some", .uses "self"] else [.uses "self"] := by
  rw [recordValue]
  split
  · simp
  · split <;> simp [Expr.mentions, Expr.mentionsOfAll]

theorem mentions_contextValues (p : Plan) : Expr.mentionsOfFields (contextValues p) = [] := by
  have hPath : (p.contextPath.append ["new"]).mentions = [] := by
    apply Path.mentions_eq_nil
    simp [Plan.contextPath, Path.append]
  rw [contextValues]
  split
  · simp [Expr.mentionsOfFields, Expr.mentions, Expr.mentionsOfAll, hPath]
  · rfl

theorem mentions_startCall (p : Plan) :
    (startCall p).mentions = p.constructorFields.map fun f => .uses f.ident.name := by
  rw [startCall, Expr.mentions, Expr.mentions_names, Expr.mentionsOfAll_eq, List.flatMap_map, List.nil_append,
    List.map_eq_flatMap]
  simp only [Expr.mentions_var]

end RowFactory.Factory

namespace RowFactory.Run

open Code
open Factory (Plan)
open Metadata (Table Package)

def Uncallable (items : List Item) : Prop :=
  (∀ type name, method? items type name = none) ∧ ∀ name, function? items name = none

theorem uncallable_of_not_wellNamed {items : List Item} (h : ¬ WellNamed items) : Uncallable items :=
  ⟨fun _ _ => if_neg h, fun _ => if_neg h⟩

variable {t : Table} {package : Package} {p : Plan}

theorem unitNames_blockUnit (p : Plan) : (Factory.blockUnit p).filterMap (·.unitName?) = [] := by
  rw [Factory.blockUnit, Factory.associationItems]
  cases p.associations <;> rfl

theorem functionNames_blockUnit (p : Plan) :
    functionNames (Factory.blockUnit p) = [p.factory.name, p.factoryWith.name] := by
  rw [functionNames, Factory.blockUnit, Factory.associationItems]
  cases p.associations <;> rfl

@[local simp] theorem clear_binds {name : String} :
    (Mention.binds name).Clear (Factory.blockUnit p) ↔ name ∉ variants := by
  rw [Mention.Clear, constants, unitNames_blockUnit, List.append_nil]

@[local simp] theorem clear_uses {name : String} : (Mention.uses name).Clear (Factory.blockUnit p) ↔
    (name ∈ variants → name ≠ p.factory.name ∧ name ≠ p.factoryWith.name) := by
  rw [Mention.Clear, functionNames_blockUnit]
  simp

attribute [local simp] Function.mentions Stmt.mentions Expr.mentions Expr.mentionsOfAll

theorem clear_associationItems : ∀ f ∈ (Factory.associationItems p).flatMap (·.functions),
    ∀ m ∈ f.mentions, m.Clear (Factory.blockUnit p) := by
  rw [Factory.associationItems]
  cases p.associations with
  | nil => exact List.forall_mem_nil _
  | cons first rest =>
    simp only [List.flatMap_cons, List.flatMap_nil, Item.functions, List.forall_mem_append, List.forall_mem_map]
    simp [Factory.associationSignature, variants, or_imp, forall_and]

theorem clear_associateFunctions :
    ∀ f ∈ Factory.associateFunctions p, ∀ m ∈ f.mentions, m.Clear (Factory.blockUnit p) := by
  simp [Factory.associateFunctions, variants, or_imp, forall_and]

theorem clear_traitFunctions :
    ∀ f ∈ Factory.traitFunctions p, ∀ m ∈ f.mentions, m.Clear (Factory.blockUnit p) := by
  simp [Factory.traitFunctions, variants, or_imp, forall_and]

theorem clear_use_of_notMem {name : String} (h : name ∉ variants) : (Mention.uses name).Clear (Factory.blockUnit p) :=
  clear_uses.mpr fun hMem => absurd hMem h

theorem clear_parameters : (∀ m ∈ p.constructorParameters.map (Mention.binds ·.1.name), m.Clear (Factory.blockUnit p)) ↔
    ∀ f ∈ p.constructorFields, f.ident.name ∉ variants := by
  rw [Plan.constructorParameters, List.map_map, List.forall_mem_map]
  exact forall₂_congr fun f _ => clear_binds

theorem clear_startCall (h : ∀ f ∈ p.constructorFields, f.ident.name ∉ variants) :
    ∀ m ∈ (Factory.startCall p).mentions, m.Clear (Factory.blockUnit p) := by
  rw [Factory.mentions_startCall, List.forall_mem_map]
  exact fun f hf => clear_use_of_notMem (h f hf)

/-- Every field that is no parameter of the constructor starts as `None`. -/
theorem clear_newValues (h : ∀ f ∈ p.constructorFields, f.ident.name ∉ variants) :
    (∀ m ∈ Expr.mentionsOfFields (p.fields.map Factory.initialValue ++ Factory.contextValues p),
      m.Clear (Factory.blockUnit p)) ↔
    ∀ f ∈ p.fields, f.inConstructor = false → (Mention.uses "None").Clear (Factory.blockUnit p) := by
  have hContext : (Factory.contextValues p).flatMap (·.2.mentions) = [] := by
    rw [← Expr.mentionsOfFields_eq, Factory.mentions_contextValues]
  rw [Expr.mentionsOfFields_eq, List.flatMap_append, hContext, List.append_nil, List.flatMap_map,
    List.forall_mem_flatMap]
  refine forall₂_congr fun f hf => ?_
  rw [Factory.mentions_initialValue, List.forall_mem_singleton]
  cases hConstructor : f.inConstructor with
  | true => simpa using clear_uses.mp (clear_use_of_notMem (h f (List.mem_filter.mpr ⟨hf, hConstructor⟩)))
  | false => simp

theorem clear_buildBody (h : p.Keyed t package) :
    (∀ m ∈ (Factory.buildBody p).flatMap (·.mentions), m.Clear (Factory.blockUnit p)) ↔
      (∀ f ∈ p.fields, (p.association? f.name).isSome → f.ident.name ∉ variants) ∧
        ∀ f ∈ p.fields, f.inConstructor → (Mention.uses "Some").Clear (Factory.blockUnit p) := by
  have hLocals :
      (∀ m ∈ (p.fields.filterMap (Factory.keyLocal? p)).flatMap (·.mentions), m.Clear (Factory.blockUnit p)) ↔
      ∀ f ∈ p.fields, (p.association? f.name).isSome → f.ident.name ∉ variants := by
    rw [List.forall_mem_flatMap, List.forall_mem_filterMap]
    refine forall₂_congr fun f _ => ?_
    rw [Factory.keyLocal?]
    cases p.association? f.name with
    | none => simp
    | some a => simp [Factory.mentions_keyLocal, -Stmt.mentions, variants]
  have hRecord (f : Factory.Field) (hf : f ∈ p.fields) :
      (∀ m ∈ (Factory.recordValue p f).2.mentions, m.Clear (Factory.blockUnit p)) ↔
      ((p.association? f.name).isSome → (Mention.uses f.ident.name).Clear (Factory.blockUnit p)) ∧
        (f.inConstructor → (Mention.uses "Some").Clear (Factory.blockUnit p)) := by
    rw [Factory.mentions_recordValue]
    cases ha : p.association? f.name with
    | some a => simp [h.inConstructor_eq_false hf ha]
    | none => cases f.inConstructor <;> simp [variants]
  rw [Factory.buildBody, List.flatMap_append, List.forall_mem_append, hLocals, List.flatMap_singleton, Stmt.mentions,
    Expr.mentions, Expr.mentionsOfFields_eq, List.flatMap_map, List.forall_mem_flatMap]
  refine and_congr_right fun hKeys => forall₂_congr fun f hf => ?_
  rw [hRecord f hf]
  exact and_iff_right fun ha => clear_use_of_notMem (hKeys f hf ha)

theorem functions_blockUnit (p : Plan) : (Factory.blockUnit p).flatMap (·.functions) =
    p.blockMethods ++ p.factoryFunctions ++ (Factory.associationItems p).flatMap (·.functions) := by
  have hFunctions : p.factoryFunctions = (Factory.factoryItems p).flatMap (·.functions) := by
    rw [Plan.factoryFunctions, Factory.blockUnit, Factory.associationItems]
    cases p.associations <;> rfl
  have hMethods : p.blockMethods = (Factory.blockBuilderItems p).flatMap (·.functions) := by
    rw [Plan.blockMethods, Factory.blockUnit, List.flatMap_append, Factory.associationItems_flatMap_methodsOf,
      List.append_nil]
    simp [Factory.blockBuilderItems, Factory.factoryItems, Item.methodsOf, Item.functions, Ty.name?, Ty.ofIdent,
      Ty.ofPath]
  rw [hFunctions, hMethods, Factory.blockUnit, List.flatMap_append, List.flatMap_append]

theorem clear_inner :
    ∀ f ∈ (if p.hasAssociations then Factory.associateFunctions p else []) ++ Factory.traitFunctions p,
    ∀ m ∈ f.mentions, m.Clear (Factory.blockUnit p) := by
  refine List.forall_mem_append.mpr ⟨?_, clear_traitFunctions⟩
  split
  · exact clear_associateFunctions
  · exact List.forall_mem_nil _

theorem clear_start {start : Function} (hParameters : start.signature.parameters = p.constructorParameters)
    (hBody : start.body =
      some [.give (.record (.ofIdent "Self") (p.fields.map Factory.initialValue ++ Factory.contextValues p) false)]) :
    (∀ m ∈ start.mentions, m.Clear (Factory.blockUnit p)) ↔
      (∀ f ∈ p.constructorFields, f.ident.name ∉ variants) ∧
        ∀ f ∈ p.fields, f.inConstructor = false → (Mention.uses "None").Clear (Factory.blockUnit p) := by
  rw [Function.mentions, hParameters, hBody, List.forall_mem_append, clear_parameters, Option.getD_some,
    List.flatMap_singleton, Stmt.mentions, Expr.mentions]
  exact and_congr_right clear_newValues

theorem clear_factoryFunctions (hColumns : ∀ f ∈ p.constructorFields, f.ident.name ∉ variants) :
    ∀ f ∈ p.factoryFunctions, ∀ m ∈ f.mentions, m.Clear (Factory.blockUnit p) := by
  obtain ⟨plain, withBlock, type, hFunctions, -, hPlain, hWithBlock, hPlainCall, hBlockCall⟩ :=
    Factory.exists_factoryFunctions p
  have hParameters := clear_parameters.mpr hColumns
  have hCall := clear_startCall hColumns
  rw [hFunctions, List.forall_mem_cons, List.forall_mem_singleton]
  constructor
  · rw [Function.mentions, hPlain, hPlainCall, List.forall_mem_append]
    exact ⟨hParameters, by simpa using hCall⟩
  · rw [Function.mentions, hWithBlock, hBlockCall, List.map_append, List.forall_mem_append, List.forall_mem_append]
    refine ⟨⟨hParameters, by simp [Factory.blockParameter, variants]⟩, ?_⟩
    simp only [Option.getD_some, List.flatMap_cons, List.flatMap_nil, Stmt.mentions, List.forall_mem_append,
      List.forall_mem_cons]
    refine ⟨⟨by simp [variants], hCall⟩, ?_⟩
    simp [Factory.blockParameter, variants]

theorem clear_build (h : p.Keyed t package) {build : Function} (hParameters : build.signature.parameters = [])
    (hBody : build.body = some (Factory.buildBody p)) :
    (∀ m ∈ build.mentions, m.Clear (Factory.blockUnit p)) ↔
      (∀ f ∈ p.fields, (p.association? f.name).isSome → f.ident.name ∉ variants) ∧
        ∀ f ∈ p.fields, f.inConstructor → (Mention.uses "Some").Clear (Factory.blockUnit p) := by
  rw [Function.mentions, hParameters, hBody]
  exact clear_buildBody h

/-- What the functions of a unit mention, but for names that all units have in common. -/
theorem clear_blockUnit (h : p.Keyed t package) :
    (∀ f ∈ (Factory.blockUnit p).flatMap (·.functions), ∀ m ∈ f.mentions, m.Clear (Factory.blockUnit p)) ↔
      ((∀ f ∈ p.constructorFields, f.ident.name ∉ variants) ∧
        ∀ f ∈ p.fields, f.inConstructor = false → (Mention.uses "None").Clear (Factory.blockUnit p)) ∧
      (∀ f ∈ p.fields, (p.association? f.name).isSome → f.ident.name ∉ variants) ∧
        ∀ f ∈ p.fields, f.inConstructor → (Mention.uses "Some").Clear (Factory.blockUnit p) := by
  obtain ⟨start, build, hMethods, hStart, hInitial, hBuild, hValue⟩ := Factory.exists_blockMethods p
  have hStartMentions := clear_start (congrArg (·.parameters) hStart) hInitial
  have hBuildMentions := clear_build h (congrArg (·.parameters) hBuild) hValue
  rw [functions_blockUnit, hMethods, List.forall_mem_append, and_iff_left clear_associationItems, ← hStartMentions,
    ← hBuildMentions]
  constructor
  · intro hAll
    exact ⟨hAll start (by simp), hAll build (by simp)⟩
  · rintro ⟨hStart, hBuild⟩
    refine List.forall_mem_append.mpr ⟨List.forall_mem_cons.mpr ⟨hStart, ?_⟩, ?_⟩
    · exact List.forall_mem_append.mpr ⟨clear_inner, List.forall_mem_singleton.mpr hBuild⟩
    · exact clear_factoryFunctions (hStartMentions.mp hStart).1

/-- No variable of the functions of a table has the name of a variant, and the factory function hides no variant that
they need. -/
structure AvoidsVariants (t : Table) : Prop where
  parameters : ∀ column ∈ t.constructorFields, column ∉ variants
  references : ∀ key ∈ t.foreignKeys, key.field ∉ variants
  some : t.constructorFields ≠ [] → t.singularName ≠ "Some"
  none : (∃ column ∈ t.fields, column ∉ t.constructorFields) → t.singularName ≠ "None"

theorem AvoidsVariants.notMem_of_association? (hAvoids : AvoidsVariants t) (h : p.Keyed t package) {column : String}
    (hAssociation : (p.association? column).isSome) : column ∉ variants := by
  obtain ⟨key, hKey, rfl⟩ := h.isSome_association?_iff.mp hAssociation
  exact hAvoids.references key hKey

theorem clear_variant {docs : Bool} (hDrafted : p.Drafted t package docs) {variant : String}
    (hVariant : variant ∈ variants) :
    (Mention.uses variant).Clear (Factory.blockUnit p) ↔ t.singularName ≠ variant := by
  have hLength : ∀ variant ∈ variants, variant.length < "_with".length := by decide
  have hWith : variant ≠ t.singularName ++ "_with" := (Factory.append_ne_of_lt_length (hLength variant hVariant)).symm
  rw [clear_uses, Code.ident_name hDrafted.factory, Code.ident_name hDrafted.factoryWith, and_iff_left hWith, ne_comm]
  exact forall_prop_of_true hVariant

theorem nodup_typeNames_blockUnit {docs : Bool} (hDrafted : p.Drafted t package docs) :
    ((Factory.blockUnit p).filterMap (·.typeName?)).Nodup := by
  have hNames : (Factory.blockUnit p).filterMap (·.typeName?) = [p.blockBuilder.name] ∨
      (Factory.blockUnit p).filterMap (·.typeName?) = [p.blockBuilder.name, p.associationsTrait.name] := by
    rw [Factory.blockUnit, Factory.associationItems]
    cases p.associations with
    | nil => exact .inl rfl
    | cons first rest => exact .inr rfl
  have hApart : p.blockBuilder.name ≠ p.associationsTrait.name := by
    rw [Code.ident_name hDrafted.blockBuilder, Code.ident_name hDrafted.associationsTrait]
    intro hSame
    have hLast := congrArg (·.toList.getLast?) hSame
    simp at hLast
  rcases hNames with hNames | hNames
  · rw [hNames]
    exact List.nodup_singleton _
  · rw [hNames]
    simpa using hApart

theorem wellNamed_blockUnit_iff {docs : Bool} (hDrafted : p.Drafted t package docs) (h : p.Keyed t package) :
    WellNamed (Factory.blockUnit p) ↔ AvoidsVariants t := by
  have hValues : ((Factory.blockUnit p).filterMap (·.unitName?) ++ functionNames (Factory.blockUnit p)).Nodup := by
    rw [unitNames_blockUnit, functionNames_blockUnit]
    simpa using h.factory_ne
  rw [wellNamed_iff, and_iff_right (nodup_typeNames_blockUnit hDrafted), and_iff_right hValues, clear_blockUnit h,
    clear_variant hDrafted (by decide), clear_variant hDrafted (by decide)]
  have hParameters : (∀ f ∈ p.constructorFields, f.ident.name ∉ variants) ↔
      ∀ column ∈ t.constructorFields, column ∉ variants := by
    rw [← h.map_ident_constructorFields, List.forall_mem_map]
  have hReferences : (∀ f ∈ p.fields, (p.association? f.name).isSome → f.ident.name ∉ variants) ↔
      ∀ key ∈ t.foreignKeys, key.field ∉ variants := by
    constructor
    · intro hFields key hKey
      obtain ⟨f, hf, hName⟩ := List.mem_map.mp (h.names ▸ h.fields key hKey)
      have hIdent := hFields f hf (h.isSome_association?_iff.mpr ⟨key, hKey, hName.symm⟩)
      rwa [h.regular.ident f hf, hName] at hIdent
    · intro hKeys f hf ha
      obtain ⟨key, hKey, hName⟩ := h.isSome_association?_iff.mp ha
      rw [h.regular.ident f hf, ← hName]
      exact hKeys key hKey
  have hSome : (∀ f ∈ p.fields, f.inConstructor → t.singularName ≠ "Some") ↔
      (t.constructorFields ≠ [] → t.singularName ≠ "Some") := by
    rw [← h.constructorFields, Plan.constructorFields]
    simp
  have hNone : (∀ f ∈ p.fields, f.inConstructor = false → t.singularName ≠ "None") ↔
      ((∃ column ∈ t.fields, column ∉ t.constructorFields) → t.singularName ≠ "None") := by
    have hDeferred : ∀ f ∈ p.fields, f.inConstructor = false ↔ f.name ∉ t.constructorFields := by
      intro f hf
      rw [← h.inConstructor f hf, Bool.not_eq_true]
    rw [← h.names]
    simp +contextual [hDeferred]
  rw [hParameters, hReferences, hSome, hNone]
  constructor
  · rintro ⟨⟨hParameters, hNone⟩, hReferences, hSome⟩
    exact ⟨hParameters, hReferences, hSome, hNone⟩
  · intro hAvoids
    exact ⟨⟨hAvoids.parameters, hAvoids.none⟩, hAvoids.references, hAvoids.some⟩

structure Usable (t : Table) (package : Package) (p : Plan) : Prop extends Plan.Keyed t package p where
  avoids : AvoidsVariants t
  wellNamed : WellNamed (Factory.blockUnit p)

theorem functionNames_stateUnit (p : Plan) : functionNames (Factory.stateUnit p) = [] := by
  have hMarkers : (p.requiredFields.filterMap (Factory.markerItem p)).filterMap (·.functionName?) = [] := by
    rw [List.filterMap_filterMap, List.filterMap_eq_nil_iff]
    intro f _
    cases hMarker : f.marker <;> simp [Factory.markerItem, hMarker, Item.functionName?]
  rw [functionNames, Factory.stateUnit, Factory.stateItems, List.filterMap_append, List.filterMap_append,
    List.filterMap_append, hMarkers]
  rfl

theorem typeNames_stateUnit (p : Plan) : (Factory.stateUnit p).filterMap (·.typeName?) = Factory.stateNames p := by
  have hNone := functionNames_stateUnit p
  rw [functionNames, List.filterMap_eq_nil_iff] at hNone
  rw [Factory.stateNames, List.map_filterMap]
  refine List.filterMap_congr fun item hItem => ?_
  cases item with
  | function f => cases hNone _ hItem
  | _ => rfl

theorem unitNames_stateUnit (p : Plan) : (Factory.stateUnit p).filterMap (·.unitName?) = p.markers.map (·.name) := by
  have hMarkers : (p.requiredFields.filterMap (Factory.markerItem p)).filterMap (·.unitName?) =
      p.markers.map (·.name) := by
    rw [List.filterMap_filterMap, Plan.markers, List.map_filterMap]
    refine congrArg (List.filterMap · _) (funext fun f => ?_)
    cases hMarker : f.marker <;> simp [Factory.markerItem, hMarker, Item.unitName?]
  rw [Factory.stateUnit, Factory.stateItems, List.filterMap_append, List.filterMap_append, List.filterMap_append,
    hMarkers]
  simp [Factory.stateBuilderItems, Item.unitName?]

theorem mentions_phantomPath : Factory.phantomPath.mentions = [] := Path.mentions_eq_nil (by decide)

theorem binds_setters (p : Plan) (slot : Nat) (fields : List Factory.Field) {name : String} :
    ∀ f ∈ Factory.setters p slot fields, .binds name ∈ f.mentions → name = "value" := by
  induction fields generalizing slot with
  | nil => exact List.forall_mem_nil _
  | cons field rest ih =>
    rw [Factory.setters]
    cases field.marker with
    | none =>
      refine List.forall_mem_cons.mpr ⟨?_, ih slot⟩
      simp [Factory.plainSetter, Factory.setterParameter, Factory.storeValue]
    | some marker =>
      refine List.forall_mem_cons.mpr ⟨?_, ih (slot + 1)⟩
      simp [Factory.slotSetter, Factory.setterParameter, Factory.storeValue, Expr.mentionsOfFields,
        mentions_phantomPath]

theorem functions_stateUnit (p : Plan) : (Factory.stateUnit p).flatMap (·.functions) =
    Factory.newFunction p :: Factory.defaultFunction ::
      (Factory.setters p 0 p.fields ++ [Factory.buildFunction p]) := by
  have hMarkers : (p.requiredFields.filterMap (Factory.markerItem p)).flatMap (·.functions) = [] := by
    rw [List.flatMap_eq_nil_iff]
    intro item hItem
    obtain ⟨f, _, hItem⟩ := List.mem_filterMap.mp hItem
    obtain ⟨marker, _, rfl⟩ := Option.map_eq_some_iff.mp hItem
    rfl
  rw [Factory.stateUnit, Factory.stateItems, List.flatMap_append, List.flatMap_append, List.flatMap_append, hMarkers]
  simp [Factory.stateBuilderItems, Item.functions]

theorem binds_stateUnit (p : Plan) {name : String} :
    ∀ f ∈ (Factory.stateUnit p).flatMap (·.functions), .binds name ∈ f.mentions → name = "value" := by
  rw [functions_stateUnit, List.forall_mem_cons, List.forall_mem_cons, List.forall_mem_append,
    List.forall_mem_singleton]
  refine ⟨?_, ?_, binds_setters p 0 p.fields, ?_⟩
  · simp [Factory.newFunction, Expr.mentionsOfFields, Expr.mentions_names, mentions_phantomPath]
  · simp [Factory.defaultFunction, Expr.mentions_names]
  · simp [Factory.buildFunction]

/-- No marker is named like the variable of a setter, and no function of the unit hides anything. -/
theorem wellNamed_stateUnit_iff {docs : Bool} (h : p.Drafted t package docs) :
    WellNamed (Factory.stateUnit p) ↔ (Factory.stateNames p).Nodup := by
  rw [wellNamed_iff, typeNames_stateUnit, functionNames_stateUnit, List.append_nil]
  refine and_iff_left_of_imp fun hNodup => ⟨?_, fun f hf m hm => ?_⟩
  · rw [h.stateNames_eq, List.nodup_cons, List.nodup_cons] at hNodup
    rw [unitNames_stateUnit, h.markers, List.map_map]
    exact (List.nodup_append.mp hNodup.2.2).1
  · cases m with
    | uses name =>
      intro _
      rw [functionNames_stateUnit]
      exact List.not_mem_nil
    | binds name =>
      obtain rfl := binds_stateUnit p f hf hm
      rw [Mention.Clear, constants, unitNames_stateUnit, h.markers, List.mem_append, not_or]
      refine ⟨by decide, ?_⟩
      simp only [List.map_map, List.mem_map, not_exists, not_and]
      exact fun column _ => Factory.markerOf_ne_of_head (by decide)

end RowFactory.Run
