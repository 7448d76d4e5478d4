import RowFactory.Code.Render
import RowFactory.Fixtures.Tables
import RowFactory.Proofs.Factory.Spelling
import RowFactory.Proofs.Metadata.Validation
import RowFactory.Proofs.Results

/-! # Which plans have files

The names of a plan never keep its code from being written: they stand where names may stand. Its paths may, since a
path is read on its own as if it were a type, but stands in expressions too. The builder that keeps its state in its
type asks the path of the record to be a type; the builder that a block configures asks the same path to be an
expression as well, and, if the table has references, that of the support library to be both.
-/

namespace RowFactory.Factory

open Code

theorem readsAsExpr_append (path : Path) (names : List Ident) :
    (path.append names).readsAsExpr = path.readsAsExpr := by
  have hNames : (names.map fun i => (⟨i, []⟩ : Segment)).all Segment.isExplicit := by
    rw [List.all_map]
    exact List.all_eq_true.mpr fun _ _ => rfl
  rw [Path.readsAsExpr, Path.readsAsExpr, Path.append, List.all_append, hNames, Bool.and_true]

theorem readsAsType_append {path : Path} (h : path.segments ≠ []) (names : List Ident) :
    (path.append names).readsAsType = path.readsAsType := by
  obtain ⟨first, rest, hSegments⟩ := List.exists_cons_of_ne_nil h
  simp only [Path.readsAsType, Path.append, hSegments, List.cons_append]

theorem renderFile_ok_iff {unit : String} {items : List Item} :
    (∃ text, Code.renderFile unit items = .ok text) ↔
      Item.allNamed items ∧ ∀ item ∈ items, item.Each readsAt := by
  rw [← Item.eachOfAll_iff, ← Item.allRead_iff, Code.renderFile, ← Bool.and_eq_true]
  cases Item.allNamed items && Item.allRead items <;> simp

section Files

variable {t : Metadata.Table} {package : Metadata.Package} {options : Generation.Options} {p : Plan}

theorem renderFile_stateUnit_iff (h : Plan.ofTable t package options = .ok p) (unit : String) :
    (∃ text, Code.renderFile unit (stateUnit p) = .ok text) ↔ p.record.readsAsType := by
  have hDrafted := Plan.drafted (Plan.ofTable_eq_ok.mp h).1
  have hNames := hDrafted.namesTypes
  rw [renderFile_ok_iff, and_iff_right (allNamed_stateUnit hDrafted.spelled), stateUnit, List.forall_mem_append,
    each_stateBuilder allowsNames_readsAt hNames]
  exact and_iff_right (each_states allowsNames_readsAt hNames)

theorem renderFile_blockUnit_iff (h : Plan.ofTable t package options = .ok p) (unit : String) :
    (∃ text, Code.renderFile unit (blockUnit p) = .ok text) ↔
      p.record.readsAsType ∧ p.record.readsAsExpr ∧
        (p.hasAssociations → p.runtime.readsAsType ∧ p.runtime.readsAsExpr) ∧
        ∀ a ∈ p.associations, a.record.readsAsType := by
  have hDrafted := Plan.drafted (Plan.ofTable_eq_ok.mp h).1
  have hNames := hDrafted.namesTypes
  have hSegments : p.runtime.segments ≠ [] := parse_segments hDrafted.runtime
  have hType : readsAt .type p.contextPath ↔ p.runtime.readsAsType := by
    rw [readsAt, Plan.contextPath, readsAsType_append hSegments]
  have hExpr : readsAt .expression (p.contextPath.append ["new"]) ↔ p.runtime.readsAsExpr := by
    rw [readsAt, Plan.contextPath, readsAsExpr_append, readsAsExpr_append]
  rw [renderFile_ok_iff, and_iff_right (allNamed_blockUnit hDrafted.spelled), blockUnit, List.forall_mem_append,
    List.forall_mem_append, each_blockBuilder allowsNames_readsAt hNames, each_factories allowsNames_readsAt hNames,
    each_associations allowsNames_readsAt hNames, hType, hExpr]
  constructor
  · rintro ⟨⟨⟨hRecord, hMade, -, -, hContext⟩, -⟩, -, hAssociations⟩
    exact ⟨hRecord, hMade, fun hSome => ⟨(hContext hSome).1, (hContext hSome).2.1⟩, hAssociations⟩
  · rintro ⟨hRecord, hMade, hRuntime, hAssociations⟩
    refine ⟨⟨⟨hRecord, hMade, trivial, ?_, ?_⟩, hRecord⟩, ?_, hAssociations⟩
    · exact fun f _ a ha => hAssociations a (List.mem_of_find?_eq_some ha)
    · exact fun hSome => ⟨(hRuntime hSome).1, (hRuntime hSome).2, trivial⟩
    · exact fun hSome => ⟨(hRuntime hSome).1, hRecord⟩

/-- Paths of plain names keep no file from being written, as long as they do not begin with a word that no type begins
with. -/
theorem renderFile_of_plain (h : Plan.ofTable t package options = .ok p)
    (hPaths : ∀ path ∈ p.record :: p.runtime :: p.associations.map (·.record), path.IsPlain ∧ path.BeginsType)
    (unit : String) :
    (∃ text, Code.renderFile unit (stateUnit p) = .ok text) ∧
      ∃ text, Code.renderFile unit (blockUnit p) = .ok text := by
  have hType : ∀ path ∈ p.record :: p.runtime :: p.associations.map (·.record), path.readsAsType := fun path hPath =>
    allowsNames_readsAt.type (hPaths path hPath).1 (hPaths path hPath).2 .type
  have hExpr : ∀ path ∈ p.record :: p.runtime :: p.associations.map (·.record), path.readsAsExpr := fun path hPath =>
    (hPaths path hPath).1.readsAsExpr
  obtain ⟨hRecord, hRuntime, hAssociations⟩ := by simpa using hType
  obtain ⟨hMade, hStarted, -⟩ := by simpa using hExpr
  exact ⟨(renderFile_stateUnit_iff h unit).mpr hRecord,
    (renderFile_blockUnit_iff h unit).mpr ⟨hRecord, hMade, fun _ => ⟨hRuntime, hStarted⟩, hAssociations⟩⟩

/-- Which files an accepted table has. The paths of the record and of the support library are asked to stand in an
expression as well, which those that were accepted need not do. -/
theorem files_of_plan (h : Plan.ofTable t package options = .ok p) (unit : String) :
    ((∃ text, Code.renderFile unit (stateUnit p) = .ok text) ↔ p.record.readsAsType) ∧
      ((∃ text, Code.renderFile unit (blockUnit p) = .ok text) ↔
        p.record.readsAsType ∧ p.record.readsAsExpr ∧
          (p.hasAssociations → p.runtime.readsAsType ∧ p.runtime.readsAsExpr) ∧
          ∀ a ∈ p.associations, a.record.readsAsType) :=
  ⟨renderFile_stateUnit_iff h unit, renderFile_blockUnit_iff h unit⟩

end Files

/-- A support library whose path has arguments without a separator before them. -/
def argumentsPackage : Metadata.Package := { Fixtures.package with runtimePath := "a<T>" }

/-- The metadata is valid and the plan of comments is accepted, but only one of its two files can be written. -/
theorem not_renderFile_comments :
    (Metadata.ofName Fixtures.catalog "comments").validate = .ok () ∧
      ∃ p, Plan.ofTable (Metadata.ofName Fixtures.catalog "comments") argumentsPackage {} = .ok p ∧
        (∃ text, Code.renderFile "builder" (stateUnit p) = .ok text) ∧
        ¬ ∃ text, Code.renderFile "dsl_unit" (blockUnit p) = .ok text := by
  refine ⟨Metadata.Table.validate_eq_ok_iff.mpr (by decide +kernel), ?_⟩
  obtain ⟨p, hPlan⟩ : ∃ p, Plan.ofTable (Metadata.ofName Fixtures.catalog "comments") argumentsPackage {} = .ok p :=
    Results.exists_eq_ok (by decide +kernel)
  have hPaths : ∀ q ∈ (Plan.ofTable (Metadata.ofName Fixtures.catalog "comments") argumentsPackage {}).toOption,
      q.record.readsAsType ∧ q.hasAssociations ∧ ¬ q.runtime.readsAsExpr := by
    decide +kernel
  rw [hPlan] at hPaths
  obtain ⟨hRecord, hSome, hRuntime⟩ := hPaths p rfl
  refine ⟨p, hPlan, (files_of_plan hPlan "builder").1.mpr hRecord, fun hText => ?_⟩
  obtain ⟨-, -, hRead, -⟩ := (files_of_plan hPlan "dsl_unit").2.mp hText
  exact hRuntime (hRead hSome).2

end RowFactory.Factory
