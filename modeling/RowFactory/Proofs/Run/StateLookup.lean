import RowFactory.Proofs.Factory.Scopes
import RowFactory.Proofs.Factory.Slots
import RowFactory.Proofs.Run.Types
import RowFactory.Run.Builder

/-! # Functions of a builder in a state

Which of its functions a builder has depends on the tuple of its slots: a start if all are empty, the
setters always, and an end if all are filled.
-/

namespace RowFactory.Run

open Code
open Factory (Plan Field)

def slotsTy (p : Plan) (slots : List Ty) : Ty := p.builderIn (.tuple slots)

def completeAlias (p : Plan) : Substitution := [(Factory.completeIdent, .tuple (p.markers.map .ofIdent))]

theorem aliases_stateUnit (p : Plan) : aliases (Factory.stateUnit p) = completeAlias p := by
  have hMarkers : aliases (p.requiredFields.filterMap (Factory.markerItem p)) = [] := by
    rw [aliases, List.filterMap_filterMap, List.filterMap_eq_nil_iff]
    intro f _
    cases hMarker : f.marker <;> simp [Factory.markerItem, hMarker]
  have hAppend (items more : List Item) : aliases (items ++ more) = aliases items ++ aliases more :=
    List.filterMap_append
  rw [Factory.stateUnit, Factory.stateItems, hAppend, hAppend, hAppend, hMarkers]
  rfl

section Lookup

variable (p : Plan) (path : Path) (arguments : List Ty) (name : String)

theorem methodIn?_implementation (s : Substitution) (type : Ty) (parameters : Option (List TypeParameter))
    (trait : Option Ty) (target : Ty) (functions : List Function) :
    methodIn? s type name (.implementation parameters trait target functions) = (do
      let parameters ← matchType ((parameters.getD []).map (·.name)) (s.apply target) type
      let function ← functions.find? (·.signature.name.name = name)
      return ⟨type, parameters, function⟩) := rfl

theorem findSome?_stateItems (s : Substitution) :
    (Factory.stateItems p).findSome? (methodIn? s (.named path arguments) name) = none := by
  have hMarkers : (p.requiredFields.filterMap (Factory.markerItem p)).findSome?
      (methodIn? s (.named path arguments) name) = none := by
    rw [List.findSome?_eq_none_iff]
    intro item hItem
    obtain ⟨f, _, hItem⟩ := List.mem_filterMap.mp hItem
    obtain ⟨marker, _, rfl⟩ := Option.map_eq_some_iff.mp hItem
    rfl
  have hOpen (trait : Option Ty) : methodIn? s (.named path arguments) name
      (.implementation (some p.slotParameters) trait p.openState []) = none := by
    rw [methodIn?_implementation, Plan.openState, Substitution.apply_tuple, matchType_tuple_named]
    rfl
  simp only [Factory.stateItems, List.findSome?_append, hMarkers, List.findSome?_cons, hOpen]
  rfl

end Lookup

theorem apply_openState (p : Plan) :
    (completeAlias p).apply (p.builderIn p.openState) = p.builderIn p.openState := by
  have hSlot (i : Nat) : (completeAlias p).apply (.ofIdent (Factory.slotIdent i)) =
      .ofIdent (Factory.slotIdent i) := by
    rw [Substitution.apply_ofIdent, completeAlias, List.lookup_cons,
      beq_eq_false_iff_ne.mpr (Factory.slotIdent_ne_complete i)]
    rfl
  rw [Plan.builderIn, Substitution.apply_named, Plan.openState, Substitution.apply_tuple,
    Substitution.applyAll_eq_map, List.map_map]
  simp only [Function.comp_def, hSlot]

theorem apply_unsetState (p : Plan) :
    (completeAlias p).apply (p.builderIn p.unsetState) = p.builderIn p.unsetState := by
  rw [Plan.builderIn, Substitution.apply_named, Plan.unsetState, Substitution.apply_tuple,
    Substitution.applyAll_eq_map, List.map_replicate, Substitution.apply_unit]

theorem apply_complete (p : Plan) :
    (completeAlias p).apply (p.builderIn (.ofIdent Factory.completeIdent)) =
      slotsTy p (p.markers.map .ofIdent) := by
  rw [Plan.builderIn, Substitution.apply_named, Substitution.apply_ofIdent]
  rfl

/-- The setter of a field, which fills the given slot if the field has a marker. -/
def setterOf (p : Plan) (slot : Nat) (f : Field) : Function :=
  match f.marker with
  | some marker => Factory.slotSetter p slot f marker
  | none => Factory.plainSetter p f

theorem setterOf_name (p : Plan) (slot : Nat) (f : Field) :
    (setterOf p slot f).signature.name = f.setter := by
  rw [setterOf]
  cases f.marker <;> rfl

theorem setters_append (p : Plan) (slot : Nat) (before : List Field) (f : Field) (after : List Field) :
    ∃ rest, Factory.setters p slot (before ++ f :: after) =
      Factory.setters p slot before ++ setterOf p (slot + (before.filterMap (·.marker)).length) f :: rest := by
  induction before generalizing slot with
  | nil =>
    rw [List.nil_append, Factory.setters, Factory.setters, setterOf]
    cases f.marker with
    | none => exact ⟨Factory.setters p slot after, rfl⟩
    | some marker => exact ⟨Factory.setters p (slot + 1) after, rfl⟩
  | cons g before ih =>
    rw [List.cons_append, Factory.setters, Factory.setters]
    cases hMarker : g.marker with
    | none =>
      obtain ⟨rest, hRest⟩ := ih slot
      exact ⟨rest, by rw [List.filterMap_cons_none hMarker, hRest, List.cons_append]⟩
    | some marker =>
      obtain ⟨rest, hRest⟩ := ih (slot + 1)
      refine ⟨rest, ?_⟩
      rw [List.filterMap_cons_some hMarker, hRest, List.cons_append, List.length_cons,
        Nat.add_right_comm, Nat.add_assoc]

/-- The setter of a field fills the slot that has as many before it as there are markers before the field. -/
theorem find?_setters (p : Plan) {before after : List Field} {f : Field}
    (hNew : ∀ g ∈ before, g.setter.name ≠ f.setter.name) :
    (Factory.setters p 0 (before ++ f :: after)).find? (·.signature.name.name = f.setter.name) =
      some (setterOf p (before.filterMap (·.marker)).length f) := by
  obtain ⟨rest, hRest⟩ := setters_append p 0 before f after
  have hBefore : (Factory.setters p 0 before).find? (·.signature.name.name = f.setter.name) = none := by
    rw [List.find?_eq_none]
    intro function hFunction
    have hMem : function.signature.name ∈ before.map (·.setter) :=
      Factory.map_name_setters p 0 before ▸ List.mem_map_of_mem hFunction
    obtain ⟨g, hg, hName⟩ := List.mem_map.mp hMem
    simpa [← hName] using hNew g hg
  rw [hRest, List.find?_append, hBefore, List.find?_cons_of_pos, Nat.zero_add]
  · rfl
  · simp [setterOf_name]

theorem find?_setters_eq_none (p : Plan) {fields : List Field} {name : String}
    (h : ∀ f ∈ fields, f.setter.name ≠ name) :
    (Factory.setters p 0 fields).find? (·.signature.name.name = name) = none := by
  rw [List.find?_eq_none]
  intro function hFunction
  have hMem : function.signature.name ∈ fields.map (·.setter) :=
    Factory.map_name_setters p 0 fields ▸ List.mem_map_of_mem hFunction
  obtain ⟨f, hf, hName⟩ := List.mem_map.mp hMem
  simpa [← hName] using h f hf

theorem method?_eq {items : List Item} (h : WellNamed items) (type : Ty) (name : String) :
    method? items type name = items.findSome? (methodIn? (aliases items) type name) := if_pos h

theorem method?_stateUnit {p : Plan} (hNames : WellNamed (Factory.stateUnit p)) (slots : List Ty) (name : String) :
    method? (Factory.stateUnit p) (slotsTy p slots) name =
      (Factory.stateBuilderItems p).findSome? (methodIn? (completeAlias p) (slotsTy p slots) name) := by
  rw [method?_eq hNames, aliases_stateUnit, Factory.stateUnit, List.findSome?_append]
  rw [slotsTy, Plan.builderIn, findSome?_stateItems]
  rfl

theorem matchTypes_units (n : Nat) :
    matchTypes [] (List.replicate n .unit) (List.replicate n .unit) = some [] := by
  induction n with
  | zero => rw [List.replicate_zero, matchTypes]
  | succ n ih =>
    have hUnit : matchType [] .unit .unit = some [] := by rw [Ty.unit, matchType_tuple, matchTypes]
    rw [List.replicate_succ, matchTypes_cons, hUnit, ih]
    rfl

theorem method?_new {p : Plan} (hNames : WellNamed (Factory.stateUnit p)) :
    method? (Factory.stateUnit p) (p.builderIn p.unsetState) "new" =
      some ⟨p.builderIn p.unsetState, [], Factory.newFunction p⟩ := by
  have hMatch : matchType [] (p.builderIn p.unsetState) (p.builderIn p.unsetState) = some [] := by
    rw [Plan.builderIn, matchType_named, Plan.unsetState, matchType_tuple, matchTypes_units]
  have hLookup := method?_stateUnit hNames (List.replicate p.slots .unit) "new"
  rw [slotsTy] at hLookup
  rw [Plan.unsetState] at hMatch ⊢
  rw [hLookup, Factory.stateBuilderItems, List.findSome?_cons, List.findSome?_cons, methodIn?_implementation,
    apply_unsetState, Plan.unsetState]
  simp only [Option.getD_none, List.map_nil, hMatch]
  rfl

theorem methodIn?_eq_none {s : Substitution} {type : Ty} {name : String} {parameters : Option (List TypeParameter)}
    {trait : Option Ty} {target : Ty} {functions : List Function}
    (h : functions.find? (·.signature.name.name = name) = none) :
    methodIn? s type name (.implementation parameters trait target functions) = none := by
  rw [methodIn?_implementation, h]
  cases matchType ((parameters.getD []).map (·.name)) (s.apply target) type <;> rfl

theorem matchType_openState {p : Plan} (h : p.Regular) {slots : List Ty} (hLength : slots.length = p.slots) :
    matchType (p.slotParameters.map (·.name)) (p.builderIn p.openState) (slotsTy p slots) =
      some (((List.range p.slots).map Factory.slotIdent).zip slots) := by
  have hParameters : matchTypes ((List.range p.slots).map Factory.slotIdent)
      (((List.range p.slots).map Factory.slotIdent).map .ofIdent) slots =
      some (((List.range p.slots).map Factory.slotIdent).zip slots) :=
    matchTypes_parameters (List.Subset.refl _) (by simp [hLength])
  rw [List.map_map] at hParameters
  rw [slotsTy, Plan.builderIn, Plan.builderIn, matchType_named, h.map_name_slotParameters, Plan.openState,
    matchType_tuple]
  exact hParameters

theorem method?_setter {p : Plan} (h : p.Regular) (hNames : WellNamed (Factory.stateUnit p))
    {before after : List Field} {f : Field} (hFields : p.fields = before ++ f :: after)
    {slots : List Ty} (hLength : slots.length = p.slots) :
    method? (Factory.stateUnit p) (slotsTy p slots) f.setter.name =
      some ⟨slotsTy p slots, ((List.range p.slots).map Factory.slotIdent).zip slots,
        setterOf p (before.filterMap (·.marker)).length f⟩ := by
  have hMem : f ∈ p.fields := hFields ▸ List.mem_append_right _ List.mem_cons_self
  have hOther (name : String) (hName : name.toList.head? ≠ some 'w') : name ≠ f.setter.name := by
    rintro rfl
    rw [h.setter f hMem, String.toList_append] at hName
    exact hName rfl
  have hNew : ∀ g ∈ before, g.setter.name ≠ f.setter.name := by
    intro g hg hName
    rw [h.setter f hMem, h.setter g (hFields ▸ List.mem_append_left _ hg), String.append_right_inj] at hName
    exact (h.name_ne hFields).1 g hg hName
  have hStart : [Factory.newFunction p].find? (·.signature.name.name = f.setter.name) = none := by
    simpa [Factory.newFunction] using hOther "new" (by decide)
  have hDefault : [Factory.defaultFunction].find? (·.signature.name.name = f.setter.name) = none := by
    simpa [Factory.defaultFunction] using hOther "default" (by decide)
  have hSetter := hFields ▸ find?_setters p hNew
  rw [method?_stateUnit hNames, Factory.stateBuilderItems, List.findSome?_cons, List.findSome?_cons,
    methodIn?_eq_none hStart, List.findSome?_cons, methodIn?_eq_none hDefault, List.findSome?_cons,
    methodIn?_implementation, apply_openState, Option.getD_some, matchType_openState h hLength]
  simp only [hSetter]
  rfl

theorem method?_build {p : Plan} (h : p.Regular) (hNames : WellNamed (Factory.stateUnit p)) (slots : List Ty) :
    method? (Factory.stateUnit p) (slotsTy p slots) "build" =
      (matchTypes [] (p.markers.map .ofIdent) slots).map fun s =>
        ⟨slotsTy p slots, s, Factory.buildFunction p⟩ := by
  have hSetters : (Factory.setters p 0 p.fields).find? (·.signature.name.name = "build") = none := by
    apply find?_setters_eq_none
    intro f hf hName
    rw [h.setter f hf] at hName
    have hHead := congrArg (·.toList.head?) hName
    simp at hHead
  rw [method?_stateUnit hNames, Factory.stateBuilderItems, List.findSome?_cons, List.findSome?_cons,
    methodIn?_eq_none rfl, List.findSome?_cons, methodIn?_eq_none rfl, List.findSome?_cons,
    methodIn?_eq_none hSetters, List.findSome?_cons, methodIn?_implementation, apply_complete, slotsTy, slotsTy,
    Plan.builderIn, Plan.builderIn, Option.getD_none, List.map_nil, matchType_named, matchType_tuple]
  cases matchTypes [] (p.markers.map .ofIdent) slots <;> rfl

theorem method?_build_isSome {p : Plan} (h : p.Regular) (hNames : WellNamed (Factory.stateUnit p)) (slots : List Ty) :
    (method? (Factory.stateUnit p) (slotsTy p slots) "build").isSome ↔ slots = p.markers.map .ofIdent := by
  rw [method?_build h hNames, Option.isSome_map, Option.isSome_iff_ne_none, matchTypes_names]

end RowFactory.Run
