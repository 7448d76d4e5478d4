import RowFactory.Factory.Plan
import RowFactory.Metadata.Validation
import RowFactory.Proofs.Code.Idents
import RowFactory.Proofs.Results

/-! # What a plan owes to its table

A plan that could be made has one field for each column, with the names that follow from the column, and
every other name and path was accepted on its own.
-/

namespace RowFactory.Factory

def markerOf (column : String) : Code.Ident := ⟨"With" ++ Text.pascalCase column, false⟩

structure Field.Planned (t : Metadata.Table) (isRequired : Bool) (column : String) (f : Field) : Prop where
  name : f.name = column
  ident : Code.ident t.name column = .ok f.ident
  setter : Code.ident t.name ("with_" ++ column) = .ok f.setter
  kind : f.kind = t.fieldKind column
  required : f.required = isRequired
  marker : f.marker = if isRequired then some (markerOf column) else none
  named : ∀ m ∈ f.marker, Code.ident t.name m.name = .ok m

theorem Field.planned {t : Metadata.Table} {isRequired : Bool} {column : String} {f : Field}
    (h : Field.plan t isRequired column = .ok f) : f.Planned t isRequired column := by
  obtain ⟨marker, hMarker, hNamed, h⟩ : ∃ marker : Option Code.Ident,
      marker = (if isRequired then some (markerOf column) else none) ∧
      (∀ m ∈ marker, Code.ident t.name m.name = .ok m) ∧
      (do
        let ident ← Code.ident t.name column
        let setter ← Code.ident t.name ("with_" ++ column)
        return { name := column, ident, setter, kind := t.fieldKind column, required := isRequired, marker }) =
          Except.ok f := by
    cases isRequired with
    | false => exact ⟨none, rfl, nofun, h⟩
    | true =>
      obtain ⟨marker, hMarker, h⟩ := Results.bind_eq_ok.mp h
      obtain ⟨i, hIdent, rfl⟩ := Results.map_eq_ok.mp hMarker
      refine ⟨some i, ?_, fun m hm => ?_, h⟩
      · rw [(Code.Ident.ofName?_eq_some (Code.ident_eq_ok.mp hIdent)).2, Code.keywords_not_marker]
        rfl
      · cases hm
        rw [Code.ident_name hIdent, hIdent]
  obtain ⟨ident, hIdent, h⟩ := Results.bind_eq_ok.mp h
  obtain ⟨setter, hSetter, h⟩ := Results.bind_eq_ok.mp h
  cases h
  exact ⟨rfl, hIdent, hSetter, rfl, rfl, hMarker, hNamed⟩

/-- What each part of a plan is made from. -/
structure Plan.Drafted (t : Metadata.Table) (package : Metadata.Package) (docs : Bool) (p : Plan) : Prop where
  fields : ∃ required optional, p.fields = required ++ optional ∧
    List.Forall₂ (Field.Planned t true) t.required required ∧
    List.Forall₂ (Field.Planned t false) t.optional optional
  associations :
    List.Forall₂ (fun key a => Association.plan t package key = .ok a) t.foreignKeys p.associations
  record : Code.Path.ofType package.recordModule t.recordTypeName = .ok p.record
  runtime : Code.Path.parse package.runtimePath = .ok p.runtime
  factory : Code.ident t.name t.singularName = .ok p.factory
  factoryWith : Code.ident t.name (t.singularName ++ "_with") = .ok p.factoryWith
  stateTrait : Code.ident t.name (t.baseName ++ "FieldState") = .ok p.stateTrait
  stateBuilder : Code.ident t.name (t.baseName ++ "FactoryBuilder") = .ok p.stateBuilder
  blockBuilder : Code.ident t.name (t.baseName ++ "DslBuilder") = .ok p.blockBuilder
  associationsTrait : Code.ident t.name (t.baseName ++ "Associations") = .ok p.associationsTrait
  rest : p.table = t.name ∧ p.baseName = t.baseName ∧ p.docs = docs ∧ p.package = package

theorem Plan.drafted {t : Metadata.Table} {package : Metadata.Package} {docs : Bool} {p : Plan}
    (h : Plan.draft t package docs = .ok p) : p.Drafted t package docs := by
  rw [Plan.draft] at h
  obtain ⟨required, hRequired, h⟩ := Results.bind_eq_ok.mp h
  obtain ⟨optional, hOptional, h⟩ := Results.bind_eq_ok.mp h
  obtain ⟨associations, hAssociations, h⟩ := Results.bind_eq_ok.mp h
  obtain ⟨record, hRecord, h⟩ := Results.bind_eq_ok.mp h
  obtain ⟨runtime, hRuntime, h⟩ := Results.bind_eq_ok.mp h
  obtain ⟨factory, hFactory, h⟩ := Results.bind_eq_ok.mp h
  obtain ⟨factoryWith, hFactoryWith, h⟩ := Results.bind_eq_ok.mp h
  obtain ⟨stateTrait, hStateTrait, h⟩ := Results.bind_eq_ok.mp h
  obtain ⟨stateBuilder, hStateBuilder, h⟩ := Results.bind_eq_ok.mp h
  obtain ⟨blockBuilder, hBlockBuilder, h⟩ := Results.bind_eq_ok.mp h
  obtain ⟨associationsTrait, hAssociationsTrait, h⟩ := Results.bind_eq_ok.mp h
  cases h
  have hFields {isRequired : Bool} {columns : List String} {fields : List Field}
      (h : columns.mapM (Field.plan t isRequired) = .ok fields) :
      List.Forall₂ (Field.Planned t isRequired) columns fields :=
    (Results.mapM_eq_ok.mp h).imp fun _ _ => Field.planned
  exact
    { fields := ⟨required, optional, rfl, hFields hRequired, hFields hOptional⟩
      associations := Results.mapM_eq_ok.mp hAssociations
      record := hRecord
      runtime := hRuntime
      factory := hFactory
      factoryWith := hFactoryWith
      stateTrait := hStateTrait
      stateBuilder := hStateBuilder
      blockBuilder := hBlockBuilder
      associationsTrait := hAssociationsTrait
      rest := ⟨rfl, rfl, rfl, rfl⟩ }

theorem Plan.ofTable_eq_ok {t : Metadata.Table} {package : Metadata.Package}
    {options : Generation.Options} {p : Plan} :
    Plan.ofTable t package options = .ok p ↔
      Plan.draft t package options.docs = .ok p ∧ p.collision? = none := by
  rw [Plan.ofTable, Results.bind_eq_ok]
  constructor
  · rintro ⟨plan, hDraft, h⟩
    cases hCollision : plan.collision? with
    | none =>
      rw [hCollision] at h
      cases h
      exact ⟨hDraft, hCollision⟩
    | some c =>
      rw [hCollision] at h
      cases h
  · rintro ⟨hDraft, hCollision⟩
    refine ⟨p, hDraft, ?_⟩
    rw [hCollision]
    rfl

namespace Plan

variable {t : Metadata.Table} {package : Metadata.Package} {docs : Bool} {p : Plan}

theorem map_of_planned {α : Type} {required : Bool} {columns : List String} {fields : List Field}
    (h : List.Forall₂ (Field.Planned t required) columns fields) {f : Field → α} {g : String → α}
    (hf : ∀ column field, field.Planned t required column → f field = g column) :
    fields.map f = columns.map g := by
  induction h with
  | nil => rfl
  | cons hField _ ih => rw [List.map_cons, List.map_cons, hf _ _ hField, ih]

theorem filter_of_planned {required : Bool} {columns : List String} {fields : List Field}
    (h : List.Forall₂ (Field.Planned t required) columns fields) :
    fields.filter (·.required) = if required then fields else [] := by
  induction h with
  | nil => cases required <;> rfl
  | cons hField _ ih =>
    rw [List.filter_cons, hField.required, ih]
    cases required <;> rfl

theorem Drafted.requiredFields (h : p.Drafted t package docs) :
    List.Forall₂ (Field.Planned t true) t.required p.requiredFields := by
  obtain ⟨required, optional, hFields, hRequired, hOptional⟩ := h.fields
  rw [Plan.requiredFields, hFields, List.filter_append, filter_of_planned hRequired,
    filter_of_planned hOptional]
  simpa using hRequired

theorem Drafted.field_planned (h : p.Drafted t package docs) {f : Field} (hf : f ∈ p.fields) :
    f.Planned t f.required f.name := by
  obtain ⟨required, optional, hFields, hRequired, hOptional⟩ := h.fields
  have hMember {isRequired : Bool} {columns : List String} {fields : List Field}
      (h : List.Forall₂ (Field.Planned t isRequired) columns fields) (hf : f ∈ fields) :
      f.Planned t f.required f.name := by
    induction h with
    | nil => cases hf
    | cons hField _ ih =>
      rcases List.mem_cons.mp hf with rfl | hf
      · rw [hField.name, hField.required]
        exact hField
      · exact ih hf
  rw [hFields] at hf
  rcases List.mem_append.mp hf with hf | hf
  · exact hMember hRequired hf
  · exact hMember hOptional hf

theorem Drafted.map_name_fields (h : p.Drafted t package docs) : p.fields.map (·.name) = t.fields := by
  obtain ⟨required, optional, hFields, hRequired, hOptional⟩ := h.fields
  rw [hFields, List.map_append, Metadata.Table.fields,
    map_of_planned hRequired (g := id) fun _ _ hField => hField.name,
    map_of_planned hOptional (g := id) fun _ _ hField => hField.name, List.map_id, List.map_id]

/-- The names of the fields differ, and all other names of a field follow from its own. -/
structure Regular (p : Plan) : Prop where
  nodup : (p.fields.map (·.name)).Nodup
  ident : ∀ f ∈ p.fields, f.ident.name = f.name
  setter : ∀ f ∈ p.fields, f.setter.name = "with_" ++ f.name
  marker : ∀ f ∈ p.fields, f.marker = if f.required then some (markerOf f.name) else none

theorem Drafted.regular (h : p.Drafted t package docs) (hNodup : t.fields.Nodup) : p.Regular where
  nodup := h.map_name_fields ▸ hNodup
  ident _ hf := Code.ident_name (h.field_planned hf).ident
  setter _ hf := Code.ident_name (h.field_planned hf).setter
  marker _ hf := (h.field_planned hf).marker

theorem Regular.name_ne (h : p.Regular) {before after : List Field} {f : Field}
    (hFields : p.fields = before ++ f :: after) :
    (∀ g ∈ before, g.name ≠ f.name) ∧ ∀ g ∈ after, g.name ≠ f.name := by
  have hNodup := h.nodup
  rw [hFields, List.map_append, List.map_cons, List.nodup_append, List.nodup_cons] at hNodup
  obtain ⟨_, ⟨hAfter, _⟩, hBefore⟩ := hNodup
  refine ⟨fun g hg => hBefore _ (List.mem_map_of_mem hg) _ List.mem_cons_self, fun g hg hName => ?_⟩
  exact hAfter (hName ▸ List.mem_map_of_mem hg)

theorem Drafted.map_name_requiredFields (h : p.Drafted t package docs) :
    p.requiredFields.map (·.name) = t.required := by
  rw [map_of_planned h.requiredFields (g := id) fun _ _ hField => hField.name, List.map_id]

theorem filterMap_marker {fields : List Field}
    (h : ∀ f ∈ fields, f.marker = if f.required then some (markerOf f.name) else none) :
    fields.filterMap (·.marker) = (fields.filter (·.required)).map fun f => markerOf f.name := by
  induction fields with
  | nil => rfl
  | cons f rest ih =>
    have hRest := ih fun g hg => h g (List.mem_cons_of_mem _ hg)
    have hMarker := h f List.mem_cons_self
    cases hRequired : f.required with
    | false =>
      rw [hRequired] at hMarker
      rw [List.filterMap_cons_none hMarker, hRest, List.filter_cons_of_neg (by simp [hRequired])]
    | true =>
      rw [hRequired] at hMarker
      rw [List.filterMap_cons_some hMarker, hRest, List.filter_cons_of_pos hRequired, List.map_cons]

theorem markers_eq (h : ∀ f ∈ p.fields, f.marker = if f.required then some (markerOf f.name) else none) :
    p.markers = p.requiredFields.map fun f => markerOf f.name := by
  have hRequired : p.requiredFields.filter (·.required) = p.requiredFields :=
    List.filter_eq_self.mpr fun f hf => (List.mem_filter.mp hf).2
  have hMarker : ∀ f ∈ p.requiredFields, f.marker = if f.required then some (markerOf f.name) else none :=
    fun f hf => h f (List.mem_filter.mp hf).1
  rw [Plan.markers, filterMap_marker hMarker, hRequired]

theorem Regular.markers (h : p.Regular) : p.markers = p.requiredFields.map fun f => markerOf f.name :=
  markers_eq h.marker

theorem Drafted.markers (h : p.Drafted t package docs) : p.markers = t.required.map markerOf := by
  rw [markers_eq fun f hf => (h.field_planned hf).marker, ← h.map_name_requiredFields, List.map_map]
  rfl

end Plan

end RowFactory.Factory
