import Mathlib.Data.List.Induction
import RowFactory.Fixtures.Tables
import RowFactory.Proofs.Ascending
import RowFactory.Proofs.Metadata.Validation
import RowFactory.Proofs.Run.Evaluation
import RowFactory.Proofs.Run.Names
import RowFactory.Proofs.Run.StateLookup

/-! # Builders that keep their state in their type

The type of a builder says after any calls which required fields have been set, and its record holds what
the last call of each setter gave. Both are an invariant of single calls.
-/

namespace RowFactory.Run

open Code
open Factory (Plan Field markerOf)
open Rows (Defaults)

variable {σ : Type} {p : Plan} {d : Defaults}

def builderOf (type : Ty) (members : List (String × Value σ)) : Value σ :=
  .object type [("record", .object .unit members), ("state", .unit)]

theorem fieldValues_builder (calls : Calls σ) {scope : Scope σ} {record : Expr} {members : List (String × Value σ)}
    (h : value calls scope record = some (.object .unit members)) :
    fieldValues calls scope [] [("record", record), ("state", .path Factory.phantomPath)] =
      some [("record", .object .unit members), ("state", .unit)] := by
  have hState : value calls scope (.path Factory.phantomPath) = some .unit := by
    rw [value]
    rfl
  rw [fieldValues, h, fieldValues, hState, fieldValues]
  rfl

theorem startState_eq (hNames : WellNamed (Factory.stateUnit p)) (d : Defaults) :
    startState (σ := σ) ⟨p, d⟩ = pure (builderOf (p.builderIn p.unsetState) (Value.members d.columns)) := by
  have hRecord := value_default (callsOf (σ := σ) (Factory.stateUnit p) d callDepth) []
  rw [defaults_callsOf] at hRecord
  have hRun : runBody (callsOf (Factory.stateUnit p) d callDepth) ([] : Frame σ)
      [.give (.record (.ofIdent "Self") [("record", .call (.names ["Default", "default"]) []),
        ("state", .path Factory.phantomPath)] false)] =
      pure (builderOf (.ofPath (.ofIdent "Self")) (Value.members d.columns), []) :=
    runBody_give (value_record _ _ (fieldValues_builder _ hRecord)) []
  rw [startState, callMethod_eq (method?_new hNames) rfl rfl hRun, pure_bind]
  rfl

theorem runBody_storeValue (calls : Calls σ) (type : Ty) (members : List (String × Value σ)) (f : Field)
    (v : Value σ) (rest : List Stmt) :
    runBody calls [("self", .value (builderOf type members)), ("value", .value v)]
        (Factory.storeValue f :: rest) =
      runBody calls (Frame.set [("self", .value (builderOf type members)), ("value", .value v)] "self"
        (builderOf type (Ascending.put f.ident.name (.present v) members))) rest := by
  have hValue : value calls (Frame.scope [("self", .value (builderOf type members)), ("value", .value v)])
      (.call (.var "Some") [.method (.var "value") "into" [] []]) = some (.present v) := by
    rw [value_some, value_into, value_var _ _ (by decide)]
    rfl
  have hOld : (builderOf type members).at? ["record", f.ident.name] =
      some ((members.lookup f.ident.name).getD .absent) := rfl
  exact runBody_run (perform_assign rfl hValue rfl hOld rfl) rest

/-- The slots after a call of the setter of a field that has the slot with the given number, if it has one. -/
def fill (slots : List Ty) (slot : Nat) (f : Field) : List Ty :=
  match f.marker with
  | some marker => slots.set slot (.ofIdent marker)
  | none => slots

theorem apply_stateWith {slots : List Ty} (hLength : slots.length = p.slots) (slot : Nat) {marker : Ident}
    {s : Substitution} (hMarker : s.lookup marker = none)
    (hSlots : ∀ i type, slots[i]? = some type → s.lookup (Factory.slotIdent i) = some type) :
    s.apply (p.builderIn (p.stateWith slot marker)) = slotsTy p (slots.set slot (.ofIdent marker)) := by
  rw [Plan.builderIn, Substitution.apply_named, Plan.stateWith, Substitution.apply_tuple,
    Substitution.applyAll_eq_map, List.map_map, slotsTy, Plan.builderIn]
  congr 3
  apply List.ext_getElem
  · simp [hLength]
  · intro i hi _
    have hi : i < slots.length := by simpa [hLength] using hi
    rw [List.getElem_map, List.getElem_range, List.getElem_set]
    by_cases hSlot : i = slot
    · rw [Function.comp, if_pos hSlot, if_pos hSlot.symm, Substitution.apply_ofIdent, hMarker]
      rfl
    · rw [Function.comp, if_neg hSlot, if_neg (Ne.symm hSlot), Substitution.apply_ofIdent,
        hSlots i _ (List.getElem?_eq_getElem hi)]
      rfl

theorem resultType?_setter (h : p.Regular) {f : Field} (hf : f ∈ p.fields) {slots : List Ty}
    (hLength : slots.length = p.slots) (slot : Nat) :
    Method.resultType? ⟨slotsTy p slots, ((List.range p.slots).map Factory.slotIdent).zip slots,
      setterOf p slot f⟩ = some (slotsTy p (fill slots slot f)) := by
  cases hRequired : f.required with
  | false =>
    have hMarker : f.marker = none := by
      rw [h.marker f hf, hRequired]
      rfl
    rw [setterOf, fill, hMarker]
    refine congrArg some ?_
    rw [Substitution.apply_ofIdent, List.lookup_cons_self]
    rfl
  | true =>
    have hMarker : f.marker = some (markerOf f.name) := by
      rw [h.marker f hf, hRequired]
      rfl
    rw [setterOf, fill, hMarker]
    refine congrArg some (apply_stateWith hLength slot ?_ ?_)
    · rw [List.lookup_cons, beq_eq_false_iff_ne.mpr (Factory.markerOf_ne_self f.name)]
      refine List.lookup_eq_none_iff.mpr fun entry hEntry => bne_iff_ne.mpr ?_
      obtain ⟨i, _, hName⟩ := List.mem_map.mp (List.of_mem_zip hEntry).1
      exact hName ▸ Factory.markerOf_ne_slotIdent f.name i
    · intro i type hType
      rw [List.lookup_cons, beq_eq_false_iff_ne.mpr (Factory.slotIdent_ne_self i)]
      have hi : i < p.slots := hLength ▸ (List.getElem?_eq_some_iff.mp hType).1
      exact Ascending.lookup_zip (Factory.nodup_slotIdents _) (by simp [hi]) hType

theorem runBody_setterOf (calls : Calls σ) (p : Plan) (slot : Nat) (f : Field) (type : Ty)
    (members : List (String × Value σ)) (v : Value σ) :
    ∃ body seen frame, (setterOf p slot f).body = some body ∧
      runBody calls [("self", .value (builderOf type members)), ("value", .value v)] body =
        pure (builderOf seen (Ascending.put f.ident.name (.present v) members), frame) := by
  rw [setterOf]
  cases f.marker with
  | none =>
    refine ⟨_, type, _, rfl, (runBody_storeValue calls type members f v _).trans (runBody_give ?_ [])⟩
    rw [value_self]
    rfl
  | some marker =>
    refine ⟨_, .ofPath (.ofIdent p.stateBuilder), _, rfl,
      (runBody_storeValue calls type members f v _).trans (runBody_give (value_record _ _ ?_) [])⟩
    apply fieldValues_builder
    rw [value_field, value_self]
    rfl

theorem stamp_builderOf {m : Method} {type : Ty} (h : m.resultType? = some type) (seen : Ty)
    (members : List (String × Value σ)) : m.stamp (builderOf seen members) = builderOf type members := by
  rw [Method.stamp, h]
  rfl

theorem setField_eq (h : p.Regular) (hNames : WellNamed (Factory.stateUnit p)) {before after : List Field} {f : Field}
    (hFields : p.fields = before ++ f :: after) {slots : List Ty} (hLength : slots.length = p.slots)
    (v : Value σ) (members : List (String × Value σ)) :
    setField ⟨p, d⟩ f v (builderOf (slotsTy p slots) members) =
      pure (builderOf (slotsTy p (fill slots (before.filterMap (·.marker)).length f))
        (Ascending.put f.ident.name (.present v) members)) := by
  have hf : f ∈ p.fields := hFields ▸ List.mem_append_right _ List.mem_cons_self
  have hStart : startFrame (setterOf p (before.filterMap (·.marker)).length f)
      (some (builderOf (slotsTy p slots) members)) [.value v] =
      some [("self", .value (builderOf (slotsTy p slots) members)), ("value", .value v)] := by
    rw [setterOf]
    cases f.marker <;> rfl
  obtain ⟨body, seen, frame, hBody, hRun⟩ := runBody_setterOf (callsOf (Factory.stateUnit p) d callDepth) p
    (before.filterMap (·.marker)).length f (slotsTy p slots) members v
  have hCall := callMethod_eq (method?_setter h hNames hFields hLength) hBody hStart hRun
  rw [builderOf] at hCall
  rw [builderOf, setField, hCall, pure_bind]
  exact congrArg pure (stamp_builderOf (resultType?_setter h hf hLength _) seen _)

theorem build_eq (h : p.Regular) (hNames : WellNamed (Factory.stateUnit p)) (d : Defaults)
    (members : List (String × Value σ)) :
    ∃ type, build ⟨p, d⟩ (builderOf (slotsTy p (p.markers.map .ofIdent)) members) = pure (.object type members) := by
  have hComplete := (method?_build_isSome h hNames (p.markers.map .ofIdent)).mpr rfl
  rw [method?_build h hNames, Option.isSome_map] at hComplete
  obtain ⟨s, hMatch⟩ := Option.isSome_iff_exists.mp hComplete
  have hMethod := method?_build h hNames (p.markers.map .ofIdent)
  rw [hMatch, Option.map_some] at hMethod
  have hStart (type : Ty) : startFrame (Factory.buildFunction p) (some (builderOf type members)) [] =
      some [("self", .value (builderOf type members))] := rfl
  have hRun (calls : Calls σ) (type : Ty) :
      runBody calls [("self", .value (builderOf type members))] [.give (.field .self "record")] =
        pure (.object .unit members, [("self", .value (builderOf type members))]) := by
    apply runBody_give
    rw [value_field, Frame.scope_cons, value_self]
    rfl
  have hCall := callMethod_eq (d := d) hMethod rfl (hStart (slotsTy p (p.markers.map .ofIdent))) (hRun _ _)
  rw [builderOf] at hCall
  rw [builderOf, build, hCall, pure_bind]
  exact ⟨_, rfl⟩

def IsSet (calls : List (Field × Value σ)) (column : String) : Prop := ∃ call ∈ calls, call.1.name = column

instance (calls : List (Field × Value σ)) (column : String) : Decidable (IsSet calls column) :=
  inferInstanceAs (Decidable (∃ call ∈ calls, call.1.name = column))

def lastValue? (calls : List (Field × Value σ)) (column : String) : Option (Value σ) :=
  (calls.filter (·.1.name = column)).getLast?.map (·.2)

/-- What a record holds for a column: the last value that was set, or the default. -/
def held (d : Defaults) (calls : List (Field × Value σ)) (column : String) : Value σ :=
  ((lastValue? calls column).map .present).getD (.ofDatum? (d.column? column))

def slotTy (calls : List (Field × Value σ)) (column : String) : Ty :=
  if IsSet calls column then .ofIdent (markerOf column) else .unit

def setAll (g : Program) (calls : List (Field × Value σ)) : Action σ (Value σ) := do
  let builder ← startState g
  calls.foldlM (fun builder call => setField g call.1 call.2 builder) builder

theorem setAll_concat (g : Program) (calls : List (Field × Value σ)) (f : Field) (v : Value σ) :
    setAll g (calls ++ [(f, v)]) = setAll g calls >>= setField g f v := by
  simp [setAll, List.foldlM_append]

theorem isSet_concat {calls : List (Field × Value σ)} {f : Field} {v : Value σ} {column : String} :
    IsSet (calls ++ [(f, v)]) column ↔ column = f.name ∨ IsSet calls column := by
  simp [IsSet, or_and_right, exists_or, or_comm, eq_comm]

theorem lastValue?_concat (calls : List (Field × Value σ)) (f : Field) (v : Value σ) (column : String) :
    lastValue? (calls ++ [(f, v)]) column = if column = f.name then some v else lastValue? calls column := by
  rw [lastValue?, List.filter_append]
  by_cases hColumn : f.name = column
  · simp [hColumn]
  · simp [hColumn, Ne.symm hColumn, lastValue?]

theorem slotTy_concat_self (calls : List (Field × Value σ)) (f : Field) (v : Value σ) :
    slotTy (calls ++ [(f, v)]) f.name = .ofIdent (markerOf f.name) := by
  rw [slotTy, if_pos (isSet_concat.mpr (.inl rfl))]

theorem slotTy_concat_of_ne {f : Field} {column : String} (hColumn : column ≠ f.name)
    (calls : List (Field × Value σ)) (v : Value σ) :
    slotTy (calls ++ [(f, v)]) column = slotTy calls column := by
  rw [slotTy, slotTy]
  simp only [isSet_concat, hColumn, false_or]

def slotsAfter (p : Plan) (calls : List (Field × Value σ)) : List Ty :=
  p.requiredFields.map fun f => slotTy calls f.name

theorem fill_slotsAfter (h : p.Regular) {before after : List Field} {f : Field}
    (hFields : p.fields = before ++ f :: after) (calls : List (Field × Value σ)) (v : Value σ) :
    fill (slotsAfter p calls) (before.filterMap (·.marker)).length f = slotsAfter p (calls ++ [(f, v)]) := by
  obtain ⟨hBefore, hAfter⟩ := h.name_ne hFields
  have hSame {fields : List Field} (hNe : ∀ g ∈ fields, g.name ≠ f.name) :
      ((fields.filter (·.required)).map fun g => slotTy (calls ++ [(f, v)]) g.name) =
        (fields.filter (·.required)).map fun g => slotTy calls g.name :=
    List.map_congr_left fun g hg => slotTy_concat_of_ne (hNe g (List.mem_filter.mp hg).1) calls v
  have hMarkers := Plan.filterMap_marker fun g hg => h.marker g (hFields ▸ List.mem_append_left _ hg)
  have hMarker := h.marker f (hFields ▸ List.mem_append_right _ List.mem_cons_self)
  rw [slotsAfter, slotsAfter, Plan.requiredFields, hFields, List.filter_append, List.map_append,
    List.map_append, hSame hBefore, hMarkers, List.length_map, fill, hMarker]
  cases hRequired : f.required with
  | false =>
    rw [List.filter_cons_of_neg (by simp [hRequired]), hSame hAfter]
    rfl
  | true =>
    rw [List.filter_cons_of_pos hRequired, List.map_cons, List.map_cons, slotTy_concat_self, hSame hAfter]
    simp

theorem setAll_eq (h : p.Regular) (hNames : WellNamed (Factory.stateUnit p)) (d : Defaults)
    {calls : List (Field × Value σ)} (hCalls : ∀ call ∈ calls, call.1 ∈ p.fields) :
    ∃ members, setAll ⟨p, d⟩ calls = pure (builderOf (slotsTy p (slotsAfter p calls)) members) ∧
      ∀ column, (members.lookup column).getD .absent = held d calls column := by
  -- By the calls in their order; the slots of the type follow from the calls alone.
  induction calls using List.reverseRecOn with
  | nil =>
    refine ⟨Value.members d.columns, ?_, fun column => ?_⟩
    · have hSlots : slotsAfter (σ := σ) p [] = List.replicate p.slots .unit := by
        rw [slotsAfter, Plan.slots, ← List.map_const]
        rfl
      rw [hSlots, setAll, startState_eq hNames]
      rfl
    · rw [lookup_members, held, Defaults.column?]
      cases d.columns.lookup column <;> rfl
  | append_singleton calls call ih =>
    obtain ⟨f, v⟩ := call
    have hf : f ∈ p.fields := hCalls (f, v) (List.mem_append_right _ List.mem_cons_self)
    obtain ⟨before, after, hFields⟩ := List.append_of_mem hf
    obtain ⟨members, hRun, hMembers⟩ := ih fun call hCall => hCalls call (List.mem_append_left _ hCall)
    refine ⟨Ascending.put f.ident.name (.present v) members, ?_, fun column => ?_⟩
    · rw [setAll_concat, hRun, pure_bind, setField_eq h hNames hFields (by simp [slotsAfter, Plan.slots]),
        fill_slotsAfter h hFields calls v]
    · have hBefore := hMembers column
      rw [held] at hBefore
      rw [Ascending.lookup_put, held, lastValue?_concat, h.ident f hf]
      split
      · rfl
      · exact hBefore

/-- A type as the module of the seal names it. -/
def insideSeal : Ty → Ty
  | .named ⟨false, segments⟩ arguments => .named ⟨false, ⟨"super", []⟩ :: segments⟩ arguments
  | type => type

/-- An implementation of the seal lets a type fill the slot of a marker. -/
def Fills (p : Plan) (marker : Ident) (type : Ty) : Prop :=
  ∃ parameters trait target functions,
    .implementation parameters (some trait) target functions ∈ Factory.sealedItems p ∧
      matchTypes ((parameters.getD []).map (·.name)) [trait, target]
        [.apply "Slot" [Factory.outerMarker marker], insideSeal type] ≠ none

theorem fills_unit {marker : Ident} (h : marker ∈ p.markers) : Fills p marker .unit := by
  refine ⟨some [⟨"M", none⟩], .apply "Slot" [.ofIdent "M"], .unit, [], ?_, ?_⟩
  · rw [Factory.sealedItems]
    cases hMarkers : p.markers with
    | nil => simp [hMarkers] at h
    | cons first rest => simp
  · have hUnit : matchType ["M"] .unit .unit = some [] := by rw [Ty.unit, matchType_tuple, matchTypes]
    have hTrait : matchType ["M"] (.apply "Slot" [.ofIdent "M"])
        (.apply "Slot" [Factory.outerMarker marker]) = some [(⟨"M", false⟩, Factory.outerMarker marker)] := by
      rw [Ty.apply, Ty.apply, matchType_named, matchType_parameter List.mem_cons_self]
    rw [Option.getD_some, List.map_cons, List.map_nil, matchTypes_cons, hTrait, matchTypes_cons, matchTypes]
    rw [show insideSeal .unit = .unit from rfl, hUnit]
    exact Option.some_ne_none _

theorem fills_marker {marker : Ident} (h : marker ∈ p.markers) : Fills p marker (.ofIdent marker) := by
  have hMarker : matchType [] (Factory.outerMarker marker) (Factory.outerMarker marker) = some [] := by
    rw [Factory.outerMarker, Ty.ofPath, matchType.eq_def]
    simp
  refine ⟨none, .apply "Slot" [Factory.outerMarker marker], Factory.outerMarker marker, [], ?_, ?_⟩
  · rw [Factory.sealedItems]
    cases hMarkers : p.markers with
    | nil => simp [hMarkers] at h
    | cons first rest =>
      rw [hMarkers] at h
      exact List.mem_append_right _ (List.mem_map_of_mem h)
  · rw [Option.getD_none, List.map_nil, matchTypes_cons, Ty.apply, matchType_named, hMarker, matchTypes_cons,
      matchTypes]
    rw [show insideSeal (.ofIdent marker) = Factory.outerMarker marker from rfl, hMarker]
    exact Option.some_ne_none _

theorem bounds_slotsAfter (h : p.Regular) (calls : List (Field × Value σ)) :
    List.Forall₂ (fun parameter slot =>
        ∃ marker, parameter.bound = some (Factory.slotTrait marker) ∧ Fills p marker slot)
      p.slotParameters (slotsAfter p calls) := by
  rw [List.forall₂_iff_get]
  refine ⟨by simp [Plan.slotParameters, slotsAfter, h.markers], fun i h₁ h₂ => ?_⟩
  have hi : i < p.requiredFields.length := by simpa [slotsAfter] using h₂
  have hMem : markerOf p.requiredFields[i].name ∈ p.markers := by
    rw [h.markers]
    exact List.mem_map_of_mem (List.getElem_mem hi)
  refine ⟨markerOf p.requiredFields[i].name, by simp [Plan.slotParameters, h.markers], ?_⟩
  rw [List.get_eq_getElem]
  simp only [slotsAfter, List.getElem_map, slotTy]
  split
  · exact fills_marker hMem
  · exact fills_unit hMem

/-- A builder that knows exactly what calls of its setters have set. -/
structure Follows (t : Metadata.Table) (g : Program) (calls : List (Field × Value σ)) (builder : Value σ) :
    Prop where
  /-- The slots of its type, one for each required column. -/
  state : ∃ members, builder = .object (slotsTy g.plan (t.required.map (slotTy calls))) members
  bounds : List.Forall₂ (fun parameter slot =>
      ∃ marker, parameter.bound = some (Factory.slotTrait marker) ∧ Fills g.plan marker slot)
    g.plan.slotParameters (t.required.map (slotTy calls))
  /-- It can be built as soon as every required column has been set. -/
  complete :
    (method? (Factory.stateUnit g.plan) (slotsTy g.plan (t.required.map (slotTy calls))) "build").isSome ↔
      ∀ column ∈ t.required, IsSet calls column
  record : (∀ column ∈ t.required, IsSet calls column) →
    ∃ record, build g builder = pure record ∧ ∀ column, record.member? column = some (held g.defaults calls column)

theorem map_slotTy_eq_markers {required : List String} {calls : List (Field × Value σ)} :
    required.map (slotTy calls) = required.map (fun column => .ofIdent (markerOf column)) ↔
      ∀ column ∈ required, IsSet calls column := by
  rw [List.map_inj_left]
  refine forall₂_congr fun column _ => ?_
  rw [slotTy]
  split
  · simpa
  · rename_i hUnset
    simp [hUnset, Ty.unit, Ty.ofIdent, Ty.ofPath]

theorem follows_setAll {t : Metadata.Table} (h : p.Regular) (hNames : WellNamed (Factory.stateUnit p)) (d : Defaults)
    (hRequired : p.requiredFields.map (·.name) = t.required) {calls : List (Field × Value σ)}
    (hCalls : ∀ call ∈ calls, call.1 ∈ p.fields) :
    ∃ builder, setAll ⟨p, d⟩ calls = pure builder ∧ Follows t ⟨p, d⟩ calls builder := by
  obtain ⟨members, hRun, hMembers⟩ := setAll_eq h hNames d hCalls
  have hSlots : slotsAfter p calls = t.required.map (slotTy calls) := by
    rw [slotsAfter, ← hRequired, List.map_map]
    rfl
  have hMarkers : p.markers.map Ty.ofIdent = t.required.map fun column => .ofIdent (markerOf column) := by
    rw [h.markers, ← hRequired, List.map_map, List.map_map]
    rfl
  have hBounds := bounds_slotsAfter h calls
  rw [hSlots] at hRun hBounds
  refine ⟨_, hRun, ⟨_, rfl⟩, hBounds, ?_, fun hSet => ?_⟩
  · rw [method?_build_isSome h hNames, hMarkers, map_slotTy_eq_markers]
  · obtain ⟨type, hBuild⟩ := build_eq h hNames d members
    rw [hMarkers, ← map_slotTy_eq_markers.mpr hSet] at hBuild
    exact ⟨_, hBuild, fun column => congrArg some (hMembers column)⟩

def adults : Defaults where
  columns := [("age", .integer 18)]

/-- A plan that is accepted although a marker has the name of the trait. -/
theorem uncallable_overlapping : Factory.overlapping.validate = .ok () ∧
    ∃ p, Plan.ofTable Factory.overlapping Fixtures.package {} = .ok p ∧ Uncallable (Factory.stateUnit p) := by
  refine ⟨Metadata.Table.validate_eq_ok_iff.mpr (by decide +kernel), ?_⟩
  obtain ⟨p, hPlan⟩ : ∃ p, Plan.ofTable Factory.overlapping Fixtures.package {} = .ok p :=
    Results.exists_eq_ok (by decide +kernel)
  have hDrafted := Plan.drafted (Plan.ofTable_eq_ok.mp hPlan).1
  refine ⟨p, hPlan, uncallable_of_not_wellNamed fun hNames => ?_⟩
  rw [wellNamed_stateUnit_iff hDrafted, hDrafted.stateNames_eq] at hNames
  exact absurd hNames (by decide +kernel)

end RowFactory.Run
