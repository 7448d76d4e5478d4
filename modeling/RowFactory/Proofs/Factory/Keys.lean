import RowFactory.Proofs.Factory.Collisions
import RowFactory.Proofs.Factory.Plans
import RowFactory.Proofs.Metadata.Validation

/-! # Fields and references of a plan

A plan has an association for each reference of its table and for no other column, and each of its methods
belongs to one of them.
-/

namespace RowFactory.Factory

open Metadata (Table ForeignKey Package)

theorem find?_of_nodup {α β : Type} [DecidableEq β] {f : α → β} {list : List α} (h : (list.map f).Nodup) {a : α}
    (ha : a ∈ list) : list.find? (fun b => f b = f a) = some a := by
  induction list with
  | nil => cases ha
  | cons first rest ih =>
    obtain ⟨hFirst, hRest⟩ := List.nodup_cons.mp h
    rcases List.mem_cons.mp ha with rfl | ha
    · exact List.find?_cons_of_pos (decide_eq_true rfl)
    · have hOther : f first ≠ f a := fun hSame => hFirst (hSame ▸ List.mem_map_of_mem ha)
      rw [List.find?_cons_of_neg (by simpa using hOther)]
      exact ih hRest ha

structure Association.Planned (package : Package) (key : ForeignKey) (a : Association) : Prop where
  field : a.field = key.field
  method : a.method.name = key.singularName
  record : Code.Path.ofType (package.moduleOf key.recordType) key.recordType = .ok a.record

theorem Association.planned {t : Table} {package : Package} {key : ForeignKey} {a : Association}
    (h : Association.plan t package key = .ok a) : a.Planned package key := by
  obtain ⟨method, hMethod, h⟩ := Results.bind_eq_ok.mp h
  obtain ⟨record, hRecord, h⟩ := Results.bind_eq_ok.mp h
  cases h
  exact ⟨rfl, Code.ident_name hMethod, hRecord⟩

theorem Association.map_of_planned {package : Package} {keys : List ForeignKey} {associations : List Association}
    (h : List.Forall₂ (Association.Planned package) keys associations) {α : Type} {f : Association → α}
    {g : ForeignKey → α} (hf : ∀ key a, a.Planned package key → f a = g key) : associations.map f = keys.map g := by
  induction h with
  | nil => rfl
  | cons hKey _ ih => rw [List.map_cons, List.map_cons, hf _ _ hKey, ih]

namespace Plan

/-- What the generated code of a plan relies on where it fills in references. -/
structure Keyed (t : Table) (package : Package) (p : Plan) : Prop where
  regular : p.Regular
  names : p.fields.map (·.name) = t.fields
  name_ne_self : ∀ f ∈ p.fields, f.name ≠ "self"
  inConstructor : ∀ f ∈ p.fields, f.inConstructor ↔ f.name ∈ t.constructorFields
  fields : ∀ key ∈ t.foreignKeys, key.field ∈ t.fields
  nodup_keys : (t.foreignKeys.map (·.field)).Nodup
  associations : List.Forall₂ (Association.Planned package) t.foreignKeys p.associations
  nodup_methods : (p.associations.map (·.method.name)).Nodup
  methods : ∀ a ∈ p.associations, a.method.name ∉ contextMethods
  no_block : ∀ f ∈ p.constructorFields, f.name ≠ blockParameter
  no_context : p.hasAssociations → ∀ f ∈ p.fields, f.name ≠ associationsField
  constructorFields : p.constructorFields.map (·.name) = t.constructorFields
  factory_ne : p.factory.name ≠ p.factoryWith.name
  blockBuilder_raw : p.blockBuilder.raw = false
  blockBuilder_ne : p.blockBuilder.name ≠ contextType

theorem hasAssociations_of_association? {p : Plan} {column : String} {a : Association}
    (h : p.association? column = some a) : p.hasAssociations := by
  rw [hasAssociations]
  cases hAssociations : p.associations with
  | nil => cases hAssociations ▸ List.mem_of_find?_eq_some h
  | cons _ _ => rfl

variable {t : Table} {package : Package} {docs : Bool} {p : Plan}

theorem isSome_association?_eq (h : p.associations.map (·.field) = t.foreignKeys.map (·.field)) (column : String) :
    (p.association? column).isSome = t.isForeignKey column := by
  have hFields := congrArg (List.any · (· = column)) h
  rw [List.any_map, List.any_map] at hFields
  rw [association?, Table.isForeignKey, Table.foreignKey?, Bool.eq_iff_iff, List.find?_isSome, List.find?_isSome,
    ← List.any_eq_true, ← List.any_eq_true, ← Bool.eq_iff_iff]
  exact hFields

theorem Drafted.map_field_associations (h : p.Drafted t package docs) :
    p.associations.map (·.field) = t.foreignKeys.map (·.field) :=
  Association.map_of_planned (h.associations.imp fun _ _ => Association.planned) fun _ _ hKey => hKey.field

theorem Drafted.isSome_association? (h : p.Drafted t package docs) (column : String) :
    (p.association? column).isSome = t.isForeignKey column :=
  isSome_association?_eq h.map_field_associations column

theorem Drafted.name_ne_self (h : p.Drafted t package docs) {f : Field} (hf : f ∈ p.fields) : f.name ≠ "self" := by
  intro hName
  have hIdent := Code.ident_eq_ok.mp (h.field_planned hf).ident
  exact Code.Ident.not_unnameable (hName ▸ hIdent) (by decide)

theorem isForeignKey_eq {isRequired : Bool} {column : String} {f : Field} (h : f.Planned t isRequired column) :
    f.isForeignKey = t.isForeignKey column := by
  rw [Field.isForeignKey, h.kind, Table.fieldKind, FieldKind.classify]
  cases t.isForeignKey column with
  | true => rfl
  | false =>
    rw [decide_eq_false_iff_not, if_neg Bool.false_ne_true]
    split_ifs <;> exact nofun

theorem Drafted.inConstructor (h : p.Drafted t package docs) (hNodup : t.fields.Nodup) {f : Field}
    (hf : f ∈ p.fields) : f.inConstructor ↔ f.name ∈ t.constructorFields := by
  have hRequired : f.required ↔ f.name ∈ t.required := by
    rw [← h.map_name_requiredFields]
    constructor
    · exact fun hRequired => List.mem_map_of_mem (List.mem_filter.mpr ⟨hf, hRequired⟩)
    · intro hName
      obtain ⟨g, hg, hSame⟩ := List.mem_map.mp hName
      obtain ⟨hMem, hRequired⟩ := List.mem_filter.mp hg
      rwa [List.inj_on_of_nodup_map (h.map_name_fields ▸ hNodup) hf hMem hSame.symm]
  rw [Field.inConstructor, isForeignKey_eq (h.field_planned hf), Bool.and_eq_true, hRequired,
    Table.constructorFields, List.mem_filter]

theorem Drafted.map_name_constructorFields (h : p.Drafted t package docs) :
    p.constructorFields.map (·.name) = t.constructorFields := by
  have hFilter : p.constructorFields = p.requiredFields.filter fun f => !t.isForeignKey f.name := by
    rw [Plan.constructorFields, Plan.requiredFields, List.filter_filter]
    refine List.filter_congr fun f hf => ?_
    rw [Field.inConstructor, isForeignKey_eq (h.field_planned hf), Bool.and_comm]
  rw [hFilter, Table.constructorFields, ← h.map_name_requiredFields, List.filter_map]
  rfl

theorem Drafted.factory_ne (h : p.Drafted t package docs) : p.factory.name ≠ p.factoryWith.name := by
  rw [Code.ident_name h.factory, Code.ident_name h.factoryWith]
  intro hSame
  have hLength := congrArg (·.toList.length) hSame
  simp at hLength

/-- The builder of a table has a name that nothing else has. -/
theorem Drafted.blockBuilder_eq (h : p.Drafted t package docs) :
    p.blockBuilder.raw = false ∧ p.blockBuilder.name ≠ contextType := by
  have hKeywords : ∀ word ∈ Code.keywords, word.toList.length < 10 := by decide
  obtain ⟨-, hIdent⟩ := Code.Ident.ofName?_eq_some (Code.ident_eq_ok.mp h.blockBuilder)
  rw [hIdent]
  constructor
  · rw [List.contains_eq_mem, decide_eq_false_iff_not]
    intro hMem
    have hLength := hKeywords _ hMem
    rw [String.toList_append, List.length_append] at hLength
    exact absurd hLength (Nat.not_lt.mpr (Nat.le_add_left 10 _))
  · intro hSame
    have hLast := congrArg (·.toList.getLast?) hSame
    simp [contextType] at hLast

/-- A plan that could be made of consistent metadata keeps its fields and references apart. -/
theorem keyed_of_ofTable {options : Generation.Options} (hValid : t.validate = .ok ())
    (h : Plan.ofTable t package options = .ok p) : p.Keyed t package := by
  obtain ⟨hDraft, hCollision⟩ := Plan.ofTable_eq_ok.mp h
  have hDrafted := Plan.drafted hDraft
  have hNodup := Table.nodup_fields hValid
  obtain ⟨_, hMethod, hBlock, hContext⟩ := collision?_eq_none_iff.mp hCollision
  obtain ⟨hMethods, hOther⟩ := methods_of_no_collision hMethod
  exact
    { regular := hDrafted.regular hNodup
      names := hDrafted.map_name_fields
      name_ne_self := fun _ => hDrafted.name_ne_self
      inConstructor := fun _ => hDrafted.inConstructor hNodup
      fields := fun _ => Table.mem_fields_of_key hValid
      nodup_keys := Table.nodup_keys hValid
      associations := hDrafted.associations.imp fun _ _ => Association.planned
      nodup_methods := hMethods
      methods := hOther
      no_block := no_block_of_no_collision hBlock
      no_context := no_context_of_no_collision hContext
      constructorFields := hDrafted.map_name_constructorFields
      factory_ne := hDrafted.factory_ne
      blockBuilder_raw := hDrafted.blockBuilder_eq.1
      blockBuilder_ne := hDrafted.blockBuilder_eq.2 }

namespace Keyed

theorem map_associations (h : p.Keyed t package) {α : Type} {f : Association → α} {g : ForeignKey → α}
    (hf : ∀ key a, a.Planned package key → f a = g key) : p.associations.map f = t.foreignKeys.map g :=
  Association.map_of_planned h.associations hf

theorem nodup_fields (h : p.Keyed t package) : (p.associations.map (·.field)).Nodup := by
  rw [h.map_associations fun _ _ hKey => hKey.field]
  exact h.nodup_keys

theorem nodup_singularNames (h : p.Keyed t package) : (t.foreignKeys.map (·.singularName)).Nodup := by
  rw [← h.map_associations fun _ _ hKey => hKey.method]
  exact h.nodup_methods

theorem exists_association (h : p.Keyed t package) {key : ForeignKey} (hKey : key ∈ t.foreignKeys) :
    ∃ a ∈ p.associations, a.Planned package key ∧ p.association? key.field = some a := by
  obtain ⟨a, ha, hPlanned⟩ := Results.exists_of_mem_left h.associations hKey
  refine ⟨a, ha, hPlanned, ?_⟩
  rw [association?, ← hPlanned.field]
  exact find?_of_nodup h.nodup_fields ha

theorem isSome_association? (h : p.Keyed t package) (column : String) :
    (p.association? column).isSome = t.isForeignKey column :=
  isSome_association?_eq (h.map_associations fun _ _ hKey => hKey.field) column

theorem isSome_association?_iff (h : p.Keyed t package) {column : String} :
    (p.association? column).isSome ↔ ∃ key ∈ t.foreignKeys, key.field = column := by
  rw [h.isSome_association?, Table.isForeignKey, Table.foreignKey?, List.find?_isSome]
  simp only [decide_eq_true_eq]

theorem association?_eq_none (h : p.Keyed t package) {column : String} (hColumn : t.isForeignKey column = false) :
    p.association? column = none := by
  rw [← Option.isNone_iff_eq_none, ← Option.isSome_eq_false_iff, h.isSome_association?, hColumn]

/-- A field that an association fills in is no parameter of a constructor. -/
theorem inConstructor_eq_false (h : p.Keyed t package) {f : Field} (hf : f ∈ p.fields) {a : Association}
    (ha : p.association? f.name = some a) : f.inConstructor = false := by
  rw [Bool.eq_false_iff]
  intro hConstructor
  have hMem := (h.inConstructor f hf).mp hConstructor
  rw [Table.constructorFields, List.mem_filter, ← h.isSome_association?, ha] at hMem
  cases hMem.2

theorem map_ident_constructorFields (h : p.Keyed t package) :
    p.constructorFields.map (·.ident.name) = t.constructorFields := by
  rw [← h.constructorFields]
  exact List.map_congr_left fun f hf => h.regular.ident f (List.mem_filter.mp hf).1

theorem nodup_constructorFields (h : p.Keyed t package) : t.constructorFields.Nodup := by
  rw [← h.constructorFields]
  exact h.regular.nodup.sublist (List.filter_sublist.map _)

end Keyed

end Plan

end RowFactory.Factory
