import RowFactory.Factory.Associations
import RowFactory.Factory.StateBuilder
import RowFactory.Proofs.Code.Places
import RowFactory.Proofs.Factory.Slots

/-! # Where generated code has its paths

All paths of generated code are plain names, but for those of the records and of the support library. The path of the
record stands as a type, and as an expression where a block builder makes its record; paths of other records stand as
types; that of the support library stands as a bound and, if the table has references, in the two other places.
-/

namespace RowFactory.Factory

open Code

theorem ident_ne_try {table name : String} {i : Ident} (h : ident table name = .ok i) : i ≠ tryIdent := by
  rintro rfl
  have hTry := (Ident.ofName?_eq_some (ident_eq_ok.mp h)).2
  obtain ⟨hName, hRaw⟩ := Ident.mk.inj hTry
  rw [← hName] at hRaw
  revert hRaw
  decide

theorem ne_try_of_head {i : Ident} {c : Char} (h : i.name.toList.head? = some c) (hc : c ≠ 't') : i ≠ tryIdent := by
  rintro rfl
  exact hc (Option.some.inj h).symm

/-- The names of a plan that stand as types begin types. -/
structure Plan.NamesTypes (p : Plan) : Prop where
  markers : ∀ f ∈ p.fields, ∀ m ∈ f.marker, m ≠ tryIdent
  stateTrait : p.stateTrait ≠ tryIdent
  stateBuilder : p.stateBuilder ≠ tryIdent
  blockBuilder : p.blockBuilder ≠ tryIdent
  associationsTrait : p.associationsTrait ≠ tryIdent

theorem Plan.Drafted.namesTypes {t : Metadata.Table} {package : Metadata.Package} {docs : Bool} {p : Plan}
    (h : p.Drafted t package docs) : p.NamesTypes where
  markers := by
    intro f hf m hm
    rw [(h.field_planned hf).marker] at hm
    split at hm
    · cases hm
      exact ne_try_of_head (markerOf_head f.name) (by decide)
    · cases hm
  stateTrait := ident_ne_try h.stateTrait
  stateBuilder := ident_ne_try h.stateBuilder
  blockBuilder := ident_ne_try h.blockBuilder
  associationsTrait := ident_ne_try h.associationsTrait

theorem isPlain_valuePath (kind : FieldKind) : (valuePath kind).IsPlain := by
  cases kind <;> exact Path.isPlain_ofNames _ _

theorem beginsType_valuePath (kind : FieldKind) : (valuePath kind).BeginsType := by
  cases kind with
  | timestamp => exact .inl rfl
  | integer | boolean | foreignKey | text => exact .inr ⟨_, [], rfl, by decide⟩

theorem each_unsetState {good : Place → Path → Prop} {p : Plan} : p.unsetState.Each good .type := by
  rw [Plan.unsetState, Ty.Each, Ty.eachOfAll_iff]
  intro t ht
  rw [List.eq_of_mem_replicate ht]
  exact trivial

theorem forall_mem_ite {α : Type} {c : Prop} [Decidable c] {list : List α} {good : α → Prop} :
    (∀ x ∈ if c then list else [], good x) ↔ (c → ∀ x ∈ list, good x) := by
  by_cases hc : c <;> simp [hc]

section Each

variable {good : Place → Path → Prop} (hGood : AllowsNames good) {p : Plan} (hp : p.NamesTypes)

include hGood

theorem each_valuePath (kind : FieldKind) : (Ty.ofPath (valuePath kind)).Each good .type :=
  Ty.each_ofPath.mpr (hGood.type (isPlain_valuePath kind) (beginsType_valuePath kind) .type)

theorem each_self (place : Place) : (Ty.ofIdent "Self").Each good place := hGood.each_ofIdent (by decide) place

theorem each_selfExpr : Expr.self.Each good := hGood.each_var "self"

theorem each_slotIdent (i : Nat) : (Ty.ofIdent (slotIdent i)).Each good .type :=
  hGood.each_ofIdent (ne_try_of_head (slotIdent_head i) (by decide)) .type

theorem each_openState : p.openState.Each good .type := by
  rw [Plan.openState, Ty.Each, Ty.eachOfAll_iff]
  exact List.forall_mem_map.mpr fun i _ => each_slotIdent hGood i

theorem each_outerMarker (marker : Ident) : (outerMarker marker).Each good .type := by
  refine Ty.each_ofPath.mpr (hGood.type ?_ (.inr ⟨"super", _, rfl, by decide⟩) .type)
  simp [Path.IsPlain]

theorem each_sealed : ∀ item ∈ sealedItems p, item.Each good := by
  have hMarked : (Ty.apply "Slot" [.ofIdent "M"]).Each good .type :=
    (hGood.each_apply (by decide)).mpr (hGood.each_ofIdent (by decide) .type)
  rw [sealedItems]
  cases p.markers with
  | nil => simp [Item.Each]
  | cons marker rest =>
    refine List.forall_mem_append.mpr ⟨?_, List.forall_mem_map.mpr fun other _ => ?_⟩
    · simp [Item.Each, TypeParameter.Each, Ty.unit, Ty.Each, hMarked]
    · have hOuter := each_outerMarker hGood other
      have hSlot : (Ty.apply "Slot" [outerMarker other]).Each good .type :=
        (hGood.each_apply (by decide)).mpr hOuter
      simp [Item.Each, hSlot, hOuter]

include hp

theorem each_marker {m : Ident} (hm : m ∈ p.markers) : (Ty.ofIdent m).Each good .type := by
  obtain ⟨f, hf, hMarker⟩ := List.mem_filterMap.mp hm
  exact hGood.each_ofIdent (hp.markers f (List.mem_of_mem_filter hf) m hMarker) .type

theorem each_slotParameters : ∀ q ∈ p.slotParameters, q.Each good := by
  intro q hq
  obtain ⟨i, hi, rfl⟩ := List.mem_mapIdx.mp hq
  have hSlot : good .bound (.ofNames false ["sealed", "Slot"]) :=
    hGood.type (Path.isPlain_ofNames _ _) (.inr ⟨"sealed", _, rfl, by decide⟩) .bound
  intro bound hBound
  cases hBound
  exact ⟨hSlot, Ty.eachOfAll_iff.mpr (List.forall_mem_singleton.mpr (each_marker hGood hp (List.getElem_mem hi)))⟩

theorem each_states : ∀ item ∈ stateItems p, item.Each good := by
  have hSealed (place : Place) : (Ty.ofPath (.ofNames false ["sealed", "Sealed"])).Each good place :=
    Ty.each_ofPath.mpr (hGood.type (Path.isPlain_ofNames _ _) (.inr ⟨"sealed", _, rfl, by decide⟩) place)
  have hTrait : (Ty.ofIdent p.stateTrait).Each good .type := hGood.each_ofIdent hp.stateTrait .type
  have hParameters := each_slotParameters hGood hp
  have hOpen : p.openState.Each good .type := each_openState hGood
  have hMarkers : ∀ item ∈ p.requiredFields.filterMap (markerItem p), item.Each good := by
    intro item hItem
    obtain ⟨field, _, hField⟩ := List.mem_filterMap.mp hItem
    obtain ⟨marker, _, rfl⟩ := Option.map_eq_some_iff.mp hField
    simp [Item.Each]
  rw [stateItems]
  refine List.forall_mem_append.mpr ⟨List.forall_mem_append.mpr ⟨?before, hMarkers⟩, ?after⟩
  case before =>
    have hInner : Item.EachOfAll good (sealedItems p) := Item.eachOfAll_iff.mpr (each_sealed hGood)
    simp [Item.Each, hSealed, -Item.eachOfAll_iff, hInner]
  case after =>
    have hComplete : (Ty.tuple (p.markers.map .ofIdent)).Each good .type :=
      Ty.eachOfAll_iff.mpr (List.forall_mem_map.mpr fun m hm => each_marker hGood hp hm)
    refine List.forall_mem_cons.mpr ⟨hComplete, List.forall_mem_cons.mpr ⟨⟨hParameters, ?_, hOpen, by simp⟩,
      List.forall_mem_singleton.mpr ⟨hParameters, ?_, hOpen, by simp⟩⟩⟩
    · simp [hSealed]
    · simp [hTrait]

omit hp in
theorem each_setterParameter (field : Field) : (setterParameter field).2.Each good .type :=
  (hGood.each_apply (by decide)).mpr (each_valuePath hGood field.kind)

omit hp in
theorem each_storeValue (field : Field) : (storeValue field).Each good := by
  simp [storeValue, Expr.Each, each_selfExpr hGood, hGood.each_var]

theorem each_builderIn {state : Ty} (h : state.Each good .type) : (p.builderIn state).Each good .type := by
  refine ⟨hGood.type (Path.isPlain_ofIdent _) (.inr ⟨p.stateBuilder, [], rfl, hp.stateBuilder⟩) .type, ?_⟩
  exact Ty.eachOfAll_iff.mpr (List.forall_mem_singleton.mpr h)

theorem each_stateWith (slot : Nat) {marker : Ident} (hMarker : marker ≠ tryIdent) :
    (p.builderIn (p.stateWith slot marker)).Each good .type := by
  refine each_builderIn hGood hp (Ty.eachOfAll_iff.mpr (List.forall_mem_map.mpr fun i _ => ?_))
  split
  · exact hGood.each_ofIdent hMarker .type
  · exact each_slotIdent hGood i

theorem each_slotSetter (slot : Nat) (field : Field) {marker : Ident} (hMarker : marker ≠ tryIdent) :
    (slotSetter p slot field marker).Each good := by
  have hPhantom : good .expression phantomPath := hGood.expression (Path.isPlain_ofNames _ _)
  have hName : good .expression (.ofIdent p.stateBuilder) := hGood.expression (Path.isPlain_ofIdent _)
  simp [slotSetter, Function.Each, Signature.Each, Expr.Each, each_setterParameter hGood, each_storeValue hGood,
    each_selfExpr hGood, each_stateWith hGood hp slot hMarker, hPhantom, hName]

omit hp in
theorem each_plainSetter (field : Field) : (plainSetter p field).Each good := by
  simp [plainSetter, Function.Each, Signature.Each, each_setterParameter hGood, each_storeValue hGood,
    each_selfExpr hGood, each_self hGood]

theorem each_setters (slot : Nat) {fields : List Field} (hFields : fields ⊆ p.fields) :
    ∀ f ∈ setters p slot fields, f.Each good := by
  induction fields generalizing slot with
  | nil => exact fun _ hf => absurd hf List.not_mem_nil
  | cons field rest ih =>
    obtain ⟨hField, hRest⟩ := List.cons_subset.mp hFields
    rw [setters]
    cases hMarker : field.marker with
    | none => exact List.forall_mem_cons.mpr ⟨each_plainSetter hGood field, ih slot hRest⟩
    | some marker =>
      have hTry := hp.markers field hField marker hMarker
      exact List.forall_mem_cons.mpr ⟨each_slotSetter hGood hp slot field hTry, ih (slot + 1) hRest⟩

omit hp in
theorem each_newFunction : (newFunction p).Each good := by
  have hPhantom : good .expression phantomPath := hGood.expression (Path.isPlain_ofNames _ _)
  have hSelf : good .expression (.ofIdent "Self") := hGood.expression (Path.isPlain_ofIdent _)
  simp [newFunction, Function.Each, Signature.Each, Expr.Each, hGood.each_names, each_self hGood, hPhantom, hSelf]

omit hp in
theorem each_defaultFunction : defaultFunction.Each good := by
  simp [defaultFunction, Function.Each, Signature.Each, Expr.Each, hGood.each_names, each_self hGood]

theorem each_stateBuilder : (∀ item ∈ stateBuilderItems p, item.Each good) ↔ good .type p.record := by
  constructor
  · intro h
    have hStruct := (h _ List.mem_cons_self).2 _ List.mem_cons_self
    exact Ty.each_ofPath.mp hStruct
  · intro h
    have hPhantom : (Ty.named phantomPath [.ofIdent "S"]).Each good .type :=
      ⟨hGood.type (Path.isPlain_ofNames _ _) (.inl rfl) .type,
        Ty.eachOfAll_iff.mpr (List.forall_mem_singleton.mpr (hGood.each_ofIdent (by decide) .type))⟩
    have hTrait : (Ty.ofIdent p.stateTrait).Each good .bound := hGood.each_ofIdent hp.stateTrait .bound
    have hDefault : (Ty.ofIdent "Default").Each good .type := hGood.each_ofIdent (by decide) .type
    have hUnset : (p.builderIn p.unsetState).Each good .type := each_builderIn hGood hp each_unsetState
    have hOpen : (p.builderIn p.openState).Each good .type := each_builderIn hGood hp (each_openState hGood)
    have hComplete := each_builderIn hGood hp (hGood.each_ofIdent (i := completeIdent) (by decide) .type)
    rw [stateBuilderItems]
    simp only [List.forall_mem_cons]
    simp only [Item.Each]
    refine ⟨?struct, ?new, ?default, ?setters, ?build, fun _ hItem => absurd hItem List.not_mem_nil⟩
    case struct => simp [TypeParameter.Each, hTrait, h, hPhantom]
    case new => simp [hUnset, each_newFunction hGood]
    case default => simp [hDefault, hUnset, each_defaultFunction hGood]
    case setters =>
      exact ⟨each_slotParameters hGood hp, by simp, hOpen, each_setters hGood hp 0 (List.Subset.refl _)⟩
    case build =>
      simp [hComplete, buildFunction, Function.Each, Signature.Each, Expr.Each, each_selfExpr hGood, h]

omit hp

theorem each_constructorParameters : ∀ q ∈ p.constructorParameters, q.2.Each good .type :=
  List.forall_mem_map.mpr fun f _ => (hGood.each_apply (by decide)).mpr (each_valuePath hGood f.kind)

theorem each_constructorArguments : ∀ e ∈ p.constructorArguments, e.Each good :=
  List.forall_mem_map.mpr fun f _ => hGood.each_var f.ident

omit hGood in
theorem each_contextTy : p.contextTy.Each good .type ↔ good .type p.contextPath ∧ good .type p.record := by
  simp [Plan.contextTy, Ty.Each]

omit hGood in
theorem each_runtimeTrait {name : Ident} {arguments : List Ty} {place : Place} :
    (p.runtimeTrait name arguments).Each good place ↔
      good place (p.runtime.append [name]) ∧ ∀ t ∈ arguments, t.Each good .type := by
  simp [Plan.runtimeTrait, Ty.Each]

theorem each_blockMember (field : Field) : (blockMember field).type.Each good .type := by
  rw [blockMember]
  split
  · exact each_valuePath hGood field.kind
  · exact (hGood.each_apply (by decide)).mpr (each_valuePath hGood field.kind)

theorem each_initialValue (field : Field) : (initialValue field).2.Each good := by
  rw [initialValue]
  split <;> simp [Expr.Each, hGood.each_var]

theorem each_keyLocal (field : Field) (a : Association) : (keyLocal field a).Each good ↔ good .type a.record := by
  simp [keyLocal, Expr.Each, each_selfExpr hGood, hGood.each_var]

theorem each_recordValue (field : Field) : (recordValue p field).2.Each good := by
  rw [recordValue]
  split
  · exact hGood.each_var field.ident
  · split <;> simp [Expr.Each, each_selfExpr hGood, hGood.each_var]

theorem each_buildBody : (∀ s ∈ buildBody p, s.Each good) ↔
    (∀ f ∈ p.fields, ∀ a ∈ p.association? f.name, good .type a.record) ∧ good .expression p.record := by
  have hRecord : (Expr.record p.record (p.fields.map (recordValue p)) true).Each good ↔ good .expression p.record := by
    rw [Expr.Each, Expr.eachOfFields_iff]
    exact and_iff_left (List.forall_mem_map.mpr fun f _ => each_recordValue hGood f)
  have hLocals : (∀ s ∈ p.fields.filterMap (keyLocal? p), s.Each good) ↔
      ∀ f ∈ p.fields, ∀ a ∈ p.association? f.name, good .type a.record := by
    constructor
    · intro h f hf a ha
      refine (each_keyLocal hGood f a).mp (h _ (List.mem_filterMap.mpr ⟨f, hf, ?_⟩))
      exact Option.map_eq_some_iff.mpr ⟨a, ha, rfl⟩
    · intro h s hs
      obtain ⟨f, hf, hLocal⟩ := List.mem_filterMap.mp hs
      obtain ⟨a, ha, rfl⟩ := Option.map_eq_some_iff.mp hLocal
      exact (each_keyLocal hGood f a).mpr (h f hf a ha)
  rw [buildBody, List.forall_mem_append, hLocals, List.forall_mem_singleton, Stmt.each_give, hRecord]

theorem each_selfReference : selfReference.Each good .type := each_self hGood .type

theorem each_associateFunctions : (∀ f ∈ associateFunctions p, f.Each good) ↔
    p.contextTy.Each good .type ∧ good .bound (p.runtime.append ["Persist"]) := by
  simp [associateFunctions, Function.Each, Signature.Each, Ty.Each, Expr.Each, each_runtimeTrait,
    each_selfReference hGood, each_selfExpr hGood, hGood.each_var]

theorem each_traitFunctions : (∀ f ∈ traitFunctions p, f.Each good) ↔ good .bound (p.runtime.append ["DslTrait"]) := by
  simp [traitFunctions, Function.Each, Signature.Each, Ty.Each, Expr.Each, each_runtimeTrait, each_self hGood,
    each_selfReference hGood, each_selfExpr hGood, hGood.each_var]

include hp

theorem each_blockBuilder : (∀ item ∈ blockBuilderItems p, item.Each good) ↔
    good .type p.record ∧ good .expression p.record ∧ good .bound (p.runtime.append ["DslTrait"]) ∧
      (∀ f ∈ p.fields, ∀ a ∈ p.association? f.name, good .type a.record) ∧
      (p.hasAssociations → good .type p.contextPath ∧ good .expression (p.contextPath.append ["new"]) ∧
        good .bound (p.runtime.append ["Persist"])) := by
  have hBuilder : (Ty.ofIdent p.blockBuilder).Each good .type := hGood.each_ofIdent hp.blockBuilder .type
  have hSelf : good .expression (.ofIdent "Self") := hGood.expression (Path.isPlain_ofIdent _)
  have hMembers : ∀ m ∈ p.fields.map blockMember, m.type.Each good .type :=
    List.forall_mem_map.mpr fun f _ => each_blockMember hGood f
  have hValues : ∀ f ∈ p.fields.map initialValue, f.2.Each good :=
    List.forall_mem_map.mpr fun f _ => each_initialValue hGood f
  have hParameters := each_constructorParameters hGood (p := p)
  rw [blockBuilderItems]
  simp only [List.forall_mem_cons]
  simp only [Item.Each, Option.getD_some, List.forall_mem_append, List.forall_mem_singleton, each_traitFunctions hGood,
    forall_mem_ite, each_associateFunctions hGood, each_contextTy]
  constructor
  · rintro ⟨⟨-, -, hContext⟩, ⟨-, -, -, ⟨⟨⟨-, hNew⟩, hAssociate⟩, hTraits⟩, ⟨-, hRecord⟩, hBody⟩, -⟩
    obtain ⟨hAssociations, hMade⟩ := (each_buildBody hGood).mp hBody
    have hStart := (List.forall_mem_append.mp (Expr.eachOfFields_iff.mp (hNew _ List.mem_cons_self).2)).2
    refine ⟨Ty.each_ofPath.mp hRecord, hMade, hTraits, hAssociations, fun hSome => ?_⟩
    rw [forall_mem_ite] at hStart
    exact ⟨(hContext hSome).1, (hStart hSome _ List.mem_cons_self).1, (hAssociate hSome).2⟩
  · rintro ⟨hRecord, hMade, hTraits, hAssociations, hContext⟩
    have hBody := (each_buildBody hGood).mpr ⟨hAssociations, hMade⟩
    have hStart (hSome : p.hasAssociations) : ∀ f ∈ ([(associationsField,
        .call (.path (p.contextPath.append ["new"])) [])] : List (Ident × Expr)), f.2.Each good :=
      List.forall_mem_singleton.mpr ⟨(hContext hSome).2.1, trivial⟩
    have hNew : ∀ f ∈ p.fields.map initialValue ++ (if p.hasAssociations then [(associationsField,
        .call (.path (p.contextPath.append ["new"])) [])] else [] : List (Ident × Expr)), f.2.Each good :=
      List.forall_mem_append.mpr ⟨hValues, forall_mem_ite.mpr hStart⟩
    have hAll (hSome : p.hasAssociations) : good .type p.contextPath ∧ good .type p.record :=
      ⟨(hContext hSome).1, hRecord⟩
    refine ⟨⟨by simp, hMembers, hAll⟩, ⟨by simp, by simp, hBuilder, ⟨⟨⟨?new, ?associate⟩, hTraits⟩, ?build⟩⟩, by simp⟩
    case new =>
      refine ⟨⟨hParameters, each_self hGood .type⟩, List.forall_mem_singleton.mpr ⟨hSelf, ?_⟩⟩
      exact Expr.eachOfFields_iff.mpr hNew
    case associate => exact fun hSome => ⟨hAll hSome, (hContext hSome).2.2⟩
    case build => exact ⟨⟨by simp, Ty.each_ofPath.mpr hRecord⟩, hBody⟩

theorem each_factories : (∀ item ∈ factoryItems p, item.Each good) ↔ good .type p.record := by
  have hBuilder : (Ty.ofIdent p.blockBuilder).Each good .type := hGood.each_ofIdent hp.blockBuilder .type
  have hParameters := each_constructorParameters hGood (p := p)
  have hStart : (Expr.call (.names [p.blockBuilder, "new"]) p.constructorArguments).Each good :=
    ⟨hGood.each_names _, Expr.eachOfAll_iff.mpr (each_constructorArguments hGood)⟩
  rw [factoryItems]
  simp only [List.forall_mem_cons]
  constructor
  · rintro ⟨⟨⟨-, hRecord⟩, -⟩, -⟩
    exact Ty.each_ofPath.mp hRecord
  · intro h
    have hRecord : Ty.EachOfOutput good (some (Ty.ofPath p.record)) := Ty.each_ofPath.mpr h
    refine ⟨⟨⟨hParameters, hRecord⟩, ?plain⟩, ⟨⟨?parameters, hRecord⟩, ?block⟩,
      fun _ hItem => absurd hItem List.not_mem_nil⟩
    case plain => exact List.forall_mem_singleton.mpr ⟨hStart, trivial, trivial⟩
    case parameters =>
      refine List.forall_mem_append.mpr ⟨hParameters, List.forall_mem_singleton.mpr ?_⟩
      simp [Ty.Each, hBuilder]
    case block => exact List.forall_mem_cons.mpr ⟨hStart, by simp [Expr.Each, hGood.each_var]⟩

omit hGood hp in
theorem each_associationSignature {a : Association} : (associationSignature a).Each good ↔ good .type a.record := by
  simp [associationSignature, Signature.Each, Ty.Each]

theorem each_associations : (∀ item ∈ associationItems p, item.Each good) ↔
    (p.hasAssociations → good .type p.contextPath ∧ good .type p.record) ∧
      ∀ a ∈ p.associations, good .type a.record := by
  have hTrait : (Ty.ofIdent p.associationsTrait).Each good .type := hGood.each_ofIdent hp.associationsTrait .type
  rw [associationItems, Plan.hasAssociations]
  cases p.associations with
  | nil => simp
  | cons a rest =>
    simp [Item.Each, Function.Each, each_associationSignature, each_contextTy, hTrait, Expr.Each,
      each_selfExpr hGood, hGood.each_var]

end Each

end RowFactory.Factory
