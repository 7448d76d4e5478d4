import RowFactory.Generation.Process
import RowFactory.Proofs.Results

/-! # Stages of one table

A declaration succeeds if each of its stages does, and then it has one file for each enabled kind.
-/

namespace RowFactory.Generation

open Source (Declaration Index)

variable {catalog : Schema.Catalog} {options : Options} {index : Index} {d : Declaration}

/-- What the output of a table is made from. -/
def Generated (catalog : Schema.Catalog) (options : Options) (index : Index) (d : Declaration)
    (output : TableOutput) : Prop :=
  ∃ t package plan, Metadata.resolve catalog d.table d.declaredBy = .ok t ∧
    t.validate = .ok () ∧
    packageOf options index d t = .ok (package, output.warnings) ∧
    Factory.Plan.ofTable t package options = .ok plan ∧
    List.Forall₂ (fun kind file => unitFile d plan kind = .ok file) options.unitKinds output.files

theorem generateTable_eq_ok {output : TableOutput} :
    generateTable catalog options index d = .ok output ↔ Generated catalog options index d output := by
  rw [generateTable, Results.bind_eq_ok]
  constructor
  · rintro ⟨t, hResolve, h⟩
    obtain ⟨_, hValid, h⟩ := Results.bind_eq_ok.mp h
    obtain ⟨⟨package, warnings⟩, hPackage, h⟩ := Results.bind_eq_ok.mp h
    obtain ⟨plan, hPlan, h⟩ := Results.bind_eq_ok.mp h
    obtain ⟨files, hFiles, h⟩ := Results.bind_eq_ok.mp h
    cases h
    exact ⟨t, package, plan, hResolve, hValid, hPackage, hPlan, Results.mapM_eq_ok.mp hFiles⟩
  · rintro ⟨t, package, plan, hResolve, hValid, hPackage, hPlan, hFiles⟩
    refine ⟨t, hResolve, Results.bind_eq_ok.mpr ⟨(), hValid, ?_⟩⟩
    exact Results.bind_eq_ok.mpr ⟨_, hPackage, Results.bind_eq_ok.mpr ⟨plan, hPlan,
      Results.bind_eq_ok.mpr ⟨_, Results.mapM_eq_ok.mpr hFiles, rfl⟩⟩⟩

theorem unitFile_eq_ok {plan : Factory.Plan} {kind : FileKind} {file : GeneratedFile} :
    unitFile d plan kind = .ok file ↔
      file.path = unitPath d.moduleName d.table kind ∧ file.kind = kind ∧
        Code.renderFile file.path (unitItems plan kind) = .ok file.content := by
  rw [unitFile]
  generalize unitPath d.moduleName d.table kind = path
  obtain ⟨filePath, content, fileKind⟩ := file
  rw [Results.bind_eq_ok]
  constructor
  · rintro ⟨_, hContent, h⟩
    cases h
    exact ⟨rfl, rfl, hContent⟩
  · rintro ⟨hPath, hKind, hContent⟩
    cases hPath
    cases hKind
    exact ⟨content, hContent, rfl⟩

theorem Generated.map_files {output : TableOutput} (h : Generated catalog options index d output) :
    output.files.map (fun f => (f.path, f.kind)) =
      options.unitKinds.map fun kind => (unitPath d.moduleName d.table kind, kind) := by
  obtain ⟨_, _, plan, _, _, _, _, hFiles⟩ := h
  generalize options.unitKinds = kinds, output.files = files at hFiles
  induction hFiles with
  | nil => rfl
  | cons hFile _ ih =>
    obtain ⟨hPath, hKind, _⟩ := unitFile_eq_ok.mp hFile
    rw [List.map_cons, List.map_cons, ih, hPath, hKind]

theorem kind_of_mem_unitKinds {kind : FileKind} (h : kind ∈ options.unitKinds) : kind ≠ .moduleIndex := by
  rintro rfl
  revert h
  rw [Options.unitKinds]
  cases options.blockBuilders <;> cases options.stateBuilders <;> decide

theorem Generated.mem_files {output : TableOutput} (h : Generated catalog options index d output)
    {f : GeneratedFile} (hf : f ∈ output.files) :
    ∃ kind ∈ options.unitKinds, f.path = unitPath d.moduleName d.table kind ∧ f.kind = kind := by
  have hMem := List.mem_map_of_mem (f := fun f => (f.path, f.kind)) hf
  rw [h.map_files] at hMem
  obtain ⟨kind, hKind, hEq⟩ := List.mem_map.mp hMem
  obtain ⟨hPath, rfl⟩ := Prod.mk.inj hEq
  exact ⟨_, hKind, hPath.symm, rfl⟩

theorem Generated.exists_file {output : TableOutput} (h : Generated catalog options index d output)
    {kind : FileKind} (hKind : kind ∈ options.unitKinds) :
    ∃ f ∈ output.files, f.path = unitPath d.moduleName d.table kind := by
  have hMem := List.mem_map_of_mem (f := fun kind => (unitPath d.moduleName d.table kind, kind)) hKind
  rw [← h.map_files] at hMem
  obtain ⟨f, hf, hEq⟩ := List.mem_map.mp hMem
  exact ⟨f, hf, (Prod.mk.inj hEq).1⟩

theorem Generated.kind_ne {output : TableOutput} (h : Generated catalog options index d output)
    {f : GeneratedFile} (hf : f ∈ output.files) : f.kind ≠ .moduleIndex := by
  obtain ⟨_, hKind, _, rfl⟩ := h.mem_files hf
  exact kind_of_mem_unitKinds hKind

theorem nodup_unitKinds (options : Options) : options.unitKinds.Nodup := by
  rw [Options.unitKinds]
  cases options.blockBuilders <;> cases options.stateBuilders <;> decide

end RowFactory.Generation
