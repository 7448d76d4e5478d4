import RowFactory.Factory.StateBuilder
import RowFactory.Fixtures.Tables
import RowFactory.Proofs.Factory.Collisions
import RowFactory.Proofs.Factory.Slots
import RowFactory.Proofs.Metadata.Validation

/-! # Names beside a builder

A plan keeps markers apart from each other. It does not keep them apart from the trait and the builder, whose
names end in words of their own where those of markers begin with one: a name may do both. The main statement says
that nothing else can go wrong.
-/

namespace RowFactory.Code

def Item.name? : Item → Option Ident
  | .struct _ _ name _ _ | .trait _ name _ _ _ | .alias _ name _ | .module name _ | .declaration name => some name
  | .function f => some f.signature.name
  | .implementation _ _ _ _ => none

end RowFactory.Code

namespace RowFactory.Factory

/-- The names that the unit of a builder has in its module, without raw marks. -/
def stateNames (p : Plan) : List String := ((stateUnit p).filterMap (·.name?)).map (·.name)

def markerNames (t : Metadata.Table) : List String := t.required.map fun column => (markerOf column).name

namespace Plan

variable {t : Metadata.Table} {package : Metadata.Package} {docs : Bool} {p : Plan}

theorem Drafted.stateNames_eq (h : p.Drafted t package docs) :
    stateNames p = "sealed" :: (t.baseName ++ "FieldState") ::
      (markerNames t ++ ["Complete", t.baseName ++ "FactoryBuilder"]) := by
  have hMarkers : (p.requiredFields.filterMap (markerItem p)).filterMap (·.name?) = p.markers := by
    rw [List.filterMap_filterMap, Plan.markers]
    refine congrArg (List.filterMap · _) (funext fun f => ?_)
    rw [markerItem]
    cases f.marker <;> rfl
  have hNames : stateNames p = "sealed" :: p.stateTrait.name ::
      (p.markers.map (·.name) ++ ["Complete", p.stateBuilder.name]) := by
    rw [stateNames, stateUnit, stateItems, stateBuilderItems]
    simp only [List.filterMap_append, hMarkers, List.map_append, List.append_assoc]
    rfl
  rw [hNames, Code.ident_name h.stateTrait, Code.ident_name h.stateBuilder, h.markers, List.map_map]
  rfl

theorem Drafted.nodup_markers (h : p.Drafted t package docs) (hCollision : p.markerCollision? = none) :
    (markerNames t).Nodup := by
  have hNodup := markers_of_no_collision hCollision
  have hMarker : ∀ f ∈ p.fields, f.marker = if f.required then some (markerOf f.name) else none :=
    fun f hf => (h.field_planned hf).marker
  rw [filterMap_marker hMarker] at hNodup
  have hRequired : (p.fields.filter (·.required)).map (·.name) = t.required := h.map_name_requiredFields
  rw [markerNames, ← hRequired, List.map_map]
  rwa [List.map_map] at hNodup

end Plan

theorem append_ne_of_lt_length {stem suffix word : String} (h : word.length < suffix.length) :
    stem ++ suffix ≠ word := by
  rintro rfl
  rw [String.length_append] at h
  omega

theorem markerOf_ne_of_head {column word : String} (h : word.toList.head? ≠ some 'W') :
    (markerOf column).name ≠ word := by
  rintro rfl
  exact h (markerOf_head column)

theorem fieldState_ne_factoryBuilder (stem : String) : stem ++ "FieldState" ≠ stem ++ "FactoryBuilder" := by
  intro h
  have hLength := congrArg String.length h
  rw [String.length_append, String.length_append] at hLength
  exact absurd (Nat.add_left_cancel hLength) (by decide)

/-- The names that a builder's unit has in its module are all different, unless a marker is named like the trait
of the states or like the builder. -/
theorem nodup_stateNames_iff {t : Metadata.Table} {package : Metadata.Package} {options : Generation.Options}
    {p : Plan} (h : Plan.ofTable t package options = .ok p) :
    (stateNames p).Nodup ↔ ∀ column ∈ t.required, (markerOf column).name ≠ t.baseName ++ "FieldState" ∧
      (markerOf column).name ≠ t.baseName ++ "FactoryBuilder" := by
  obtain ⟨hDraft, hCollision⟩ := Plan.ofTable_eq_ok.mp h
  have hDrafted := Plan.drafted hDraft
  have hMarkers := hDrafted.nodup_markers (Plan.collision?_eq_none_iff.mp hCollision).1
  have hSealed : "sealed" ∉ (t.baseName ++ "FieldState") ::
      (markerNames t ++ ["Complete", t.baseName ++ "FactoryBuilder"]) := by
    simp only [markerNames, List.mem_cons, List.mem_append, List.mem_map, List.not_mem_nil, or_false, not_or,
      not_exists, not_and]
    exact ⟨(append_ne_of_lt_length (by decide)).symm, fun column _ => markerOf_ne_of_head (by decide), by decide,
      (append_ne_of_lt_length (by decide)).symm⟩
  have hTrait : t.baseName ++ "FieldState" ∉ markerNames t ++ ["Complete", t.baseName ++ "FactoryBuilder"] ↔
      ∀ column ∈ t.required, (markerOf column).name ≠ t.baseName ++ "FieldState" := by
    have hOthers : t.baseName ++ "FieldState" ∉ ["Complete", t.baseName ++ "FactoryBuilder"] := by
      simp only [List.mem_cons, List.not_mem_nil, or_false, not_or]
      exact ⟨append_ne_of_lt_length (by decide), fieldState_ne_factoryBuilder t.baseName⟩
    rw [List.mem_append, or_iff_left hOthers, markerNames, List.mem_map]
    simp only [not_exists, not_and]
  have hBuilder : (markerNames t ++ ["Complete", t.baseName ++ "FactoryBuilder"]).Nodup ↔
      ∀ column ∈ t.required, (markerOf column).name ≠ t.baseName ++ "FactoryBuilder" := by
    have hOthers : ["Complete", t.baseName ++ "FactoryBuilder"].Nodup := by
      have hBuilder : t.baseName ++ "FactoryBuilder" ≠ "Complete" := append_ne_of_lt_length (by decide)
      simpa using hBuilder.symm
    have hComplete (column : String) : (markerOf column).name ≠ "Complete" := markerOf_ne_of_head (by decide)
    rw [List.nodup_append, and_iff_right hMarkers, and_iff_right hOthers]
    simp [markerNames, hComplete]
  rw [hDrafted.stateNames_eq, List.nodup_cons, and_iff_right hSealed, List.nodup_cons, hTrait, hBuilder]
  exact forall₂_and.symm

/-- A table whose required column takes up the beginning of the trait's name. -/
def overlapping : Metadata.Table := { name := "with_x", required := ["x_field_state"] }

/-- The metadata is valid and its plan is accepted, but a marker and the trait of the states have one name. -/
theorem not_nodup_stateNames_overlapping :
    overlapping.validate = .ok () ∧
      ∃ p, Plan.ofTable overlapping Fixtures.package {} = .ok p ∧ ¬ (stateNames p).Nodup := by
  refine ⟨Metadata.Table.validate_eq_ok_iff.mpr (by decide +kernel), ?_⟩
  obtain ⟨p, hPlan⟩ : ∃ p, Plan.ofTable overlapping Fixtures.package {} = .ok p :=
    Results.exists_eq_ok (by decide +kernel)
  refine ⟨p, hPlan, fun hNodup => ?_⟩
  have hApart := (nodup_stateNames_iff hPlan).mp hNodup "x_field_state" List.mem_cons_self
  exact hApart.1 (by decide +kernel)

end RowFactory.Factory
