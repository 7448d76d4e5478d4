import RowFactory.Proofs.Code.Paths
import RowFactory.Proofs.Factory.Places

/-! # Names of generated code

Whatever the code of a plan declares, binds or selects has a name that was accepted when the plan was made, or one of a
few fixed names. The paths of a plan were read from their texts, and so are made of names as well.
-/

namespace RowFactory.Code

@[simp] theorem Ty.allNamed_eq_all (list : List Ty) : Ty.allNamed list = list.all Ty.isNamed := by
  induction list with
  | nil => rfl
  | cons t rest ih => rw [Ty.allNamed, ih, List.all_cons]

@[simp] theorem Ty.outputNamed_eq_all (output : Option Ty) : Ty.outputNamed output = output.all Ty.isNamed := by
  cases output <;> rfl

@[simp] theorem Expr.allNamed_eq_all (list : List Expr) : Expr.allNamed list = list.all Expr.isNamed := by
  induction list with
  | nil => rfl
  | cons e rest ih => rw [Expr.allNamed, ih, List.all_cons]

@[simp] theorem Expr.fieldsNamed_eq_all (fields : List (Ident × Expr)) :
    Expr.fieldsNamed fields = fields.all fun f => f.1.isName && f.2.isNamed := by
  induction fields with
  | nil => rfl
  | cons f rest ih => rw [Expr.fieldsNamed, ih, List.all_cons]

@[simp] theorem Item.allNamed_eq_all (items : List Item) : Item.allNamed items = items.all Item.isNamed := by
  induction items with
  | nil => rfl
  | cons item rest ih => rw [Item.allNamed, ih, List.all_cons]

@[simp] theorem Stmt.isNamed_bind (mutable : Bool) (name : Ident) (value : Expr) :
    (Stmt.bind mutable name value).isNamed = (name.isName && value.isNamed) := rfl

@[simp] theorem Stmt.isNamed_run (e : Expr) : (Stmt.run e).isNamed = e.isNamed := rfl

@[simp] theorem Stmt.isNamed_give (e : Expr) : (Stmt.give e).isNamed = e.isNamed := rfl

theorem Ident.standsInPath_of_isName {i : Ident} (h : i.isName) : i.standsInPath := by
  rw [Ident.standsInPath, h, Bool.true_or]

@[simp] theorem Path.isNamed_append (p : Path) (names : List Ident) :
    (p.append names).isNamed = (p.isNamed && names.all Ident.standsInPath) := by
  simp [Path.isNamed, Path.append, List.all_map, Function.comp_def]

@[simp] theorem Path.isNamed_ofIdent (i : Ident) : (Path.ofIdent i).isNamed = i.standsInPath := by
  simp [Path.isNamed, Path.ofIdent]

@[simp] theorem Ty.isNamed_ofPath (p : Path) : (Ty.ofPath p).isNamed = p.isNamed := by
  simp [Ty.ofPath, Ty.isNamed]

@[simp] theorem Ty.isNamed_ofIdent (i : Ident) : (Ty.ofIdent i).isNamed = i.standsInPath :=
  (Ty.isNamed_ofPath _).trans (Path.isNamed_ofIdent i)

@[simp] theorem Ty.isNamed_apply (name : String) (arguments : List Ty) :
    (Ty.apply name arguments).isNamed = ((name : Ident).standsInPath && arguments.all Ty.isNamed) := by
  simp [Ty.apply, Ty.isNamed, Path.isNamed]

@[simp] theorem Expr.isNamed_var (i : Ident) : (Expr.var i).isNamed = i.standsInPath := by
  simp [Expr.var, Expr.isNamed, Path.isNamed]

@[simp] theorem Expr.isNamed_names (list : List Ident) : (Expr.names list).isNamed = list.all Ident.standsInPath := by
  simp [Expr.names, Expr.isNamed, Path.isNamed, List.all_map, Function.comp_def]

end RowFactory.Code

namespace RowFactory.Factory

open Code

theorem isName_slotIdent (i : Nat) : (slotIdent i).isName := by
  have hText : (slotIdent i).name.toList = 'S' :: Nat.toDigits 10 i := by
    simp [slotIdent, Nat.toString_eq_repr, Nat.repr]
  have hDigits : ∀ c ∈ Nat.toDigits 10 i, c.isDigit := fun c hc =>
    Nat.isDigit_of_mem_toDigits (by decide) (by decide) hc
  have hWord : isWord (slotIdent i).name.toList := by
    rw [hText]
    refine isWord_iff.mpr ⟨by decide, fun c hc => isWordRest_of_ascii ?_⟩
    rw [isAsciiWordRest, Char.isAlphanum, hDigits c hc, Bool.or_true, Bool.true_or]
  -- What begins like a slot goes on with no digit, if it is a keyword.
  have hOther : ∀ word ∈ unnameable ++ keywords, word.toList.head? = some 'S' →
      ¬ word.toList.tail.all Char.isDigit := by
    decide
  have hName : (slotIdent i).name ∉ unnameable ++ keywords := by
    intro hMem
    apply hOther _ hMem (slotIdent_head i)
    rw [hText]
    exact List.all_eq_true.mpr hDigits
  rw [List.mem_append, not_or] at hName
  simp [Ident.isName, hWord, hName]

/-- The names of a plan are names, and so are those of its paths. -/
structure Plan.Spelled (p : Plan) : Prop where
  fields : ∀ f ∈ p.fields, f.ident.isName ∧ f.setter.isName ∧ ∀ m ∈ f.marker, m.isName
  associations : ∀ a ∈ p.associations, a.method.isName ∧ a.record.isNamed
  record : p.record.isNamed
  runtime : p.runtime.isNamed
  factory : p.factory.isName
  factoryWith : p.factoryWith.isName
  stateTrait : p.stateTrait.isName
  stateBuilder : p.stateBuilder.isName
  blockBuilder : p.blockBuilder.isName
  associationsTrait : p.associationsTrait.isName

theorem isName_of_ident {table name : String} {i : Ident} (h : ident table name = .ok i) : i.isName :=
  Ident.isName_of_ofName? (ident_eq_ok.mp h)

theorem Plan.Drafted.spelled {t : Metadata.Table} {package : Metadata.Package} {docs : Bool} {p : Plan}
    (h : p.Drafted t package docs) : p.Spelled where
  fields := by
    intro f hf
    have hPlanned := h.field_planned hf
    exact ⟨isName_of_ident hPlanned.ident, isName_of_ident hPlanned.setter,
      fun m hm => isName_of_ident (hPlanned.named m hm)⟩
  associations := by
    intro a ha
    obtain ⟨key, _, hPlan⟩ := Results.exists_of_mem h.associations ha
    obtain ⟨method, hMethod, hPlan⟩ := Results.bind_eq_ok.mp hPlan
    obtain ⟨record, hRecord, hPlan⟩ := Results.bind_eq_ok.mp hPlan
    cases hPlan
    exact ⟨isName_of_ident hMethod, ofType_isNamed hRecord⟩
  record := ofType_isNamed h.record
  runtime := parse_isNamed h.runtime
  factory := isName_of_ident h.factory
  factoryWith := isName_of_ident h.factoryWith
  stateTrait := isName_of_ident h.stateTrait
  stateBuilder := isName_of_ident h.stateBuilder
  blockBuilder := isName_of_ident h.blockBuilder
  associationsTrait := isName_of_ident h.associationsTrait

@[simp] theorem isNamed_valuePath (kind : FieldKind) : (valuePath kind).isNamed := by
  cases kind <;> decide

theorem isNamed_phantomPath : phantomPath.isNamed := by
  decide

section

variable {p : Plan}

theorem isNamed_openState : p.openState.isNamed := by
  simp [Plan.openState, Ty.isNamed, Ident.standsInPath_of_isName (isName_slotIdent _)]

theorem isNamed_unsetState : p.unsetState.isNamed := by
  simp [Plan.unsetState, Ty.isNamed, Ty.unit]

theorem isNamed_newFunction : (newFunction p).isNamed := by
  simp +decide [newFunction, Function.isNamed, Signature.isNamed, Expr.isNamed]

theorem isNamed_defaultFunction : defaultFunction.isNamed := by
  decide

theorem isNamed_outerMarker {marker : Ident} (h : marker.isName) : (outerMarker marker).isNamed := by
  simp +decide [outerMarker, Path.isNamed, Ident.standsInPath_of_isName h]

theorem isNamed_setterParameter (field : Field) :
    (setterParameter field).1.isName ∧ (setterParameter field).2.isNamed := by
  simp +decide [setterParameter, Ty.isNamed]

theorem isNamed_storeValue {field : Field} (h : field.ident.isName) : (storeValue field).isNamed := by
  simp +decide [storeValue, Expr.isNamed, h]

theorem isNamed_plainSetter {field : Field} (hIdent : field.ident.isName) (hSetter : field.setter.isName) :
    (plainSetter p field).isNamed := by
  simp +decide [plainSetter, Function.isNamed, Signature.isNamed, isNamed_storeValue hIdent, hSetter,
    isNamed_setterParameter]

variable (hp : p.Spelled)

include hp

theorem isNamed_builderIn {state : Ty} (h : state.isNamed) : (p.builderIn state).isNamed := by
  simp [Plan.builderIn, Ty.isNamed, Path.isNamed, Ident.standsInPath_of_isName hp.stateBuilder, h]

theorem isName_of_mem_markers {m : Ident} (hm : m ∈ p.markers) : m.isName := by
  obtain ⟨f, hf, hMarker⟩ := List.mem_filterMap.mp hm
  exact (hp.fields f (List.mem_of_mem_filter hf)).2.2 m hMarker

theorem isNamed_slotParameters : ∀ q ∈ p.slotParameters, q.isNamed := by
  intro q hq
  obtain ⟨i, hi, rfl⟩ := List.mem_mapIdx.mp hq
  have hMarker := Ident.standsInPath_of_isName (isName_of_mem_markers hp (List.getElem_mem hi))
  simp +decide [TypeParameter.isNamed, isName_slotIdent, slotTrait, Ty.isNamed, hMarker]

theorem isNamed_sealedItems : ∀ item ∈ sealedItems p, item.isNamed := by
  have hMarkers : ∀ m ∈ p.markers, (outerMarker m).isNamed := fun m hm =>
    isNamed_outerMarker (isName_of_mem_markers hp hm)
  rw [sealedItems]
  cases hList : p.markers with
  | nil => decide
  | cons first rest =>
    rw [hList] at hMarkers
    refine List.forall_mem_append.mpr ⟨by decide, List.forall_mem_map.mpr fun m hm => ?_⟩
    simp +decide [Item.isNamed, hMarkers m hm]

theorem isNamed_stateItems : ∀ item ∈ stateItems p, item.isNamed := by
  have hMarkers : ∀ item ∈ p.requiredFields.filterMap (markerItem p), item.isNamed := by
    intro item hItem
    obtain ⟨field, hField, hItem⟩ := List.mem_filterMap.mp hItem
    obtain ⟨marker, hMarker, rfl⟩ := Option.map_eq_some_iff.mp hItem
    have hName := (hp.fields field (List.mem_of_mem_filter hField)).2.2 marker hMarker
    simp [Item.isNamed, hName]
  have hComplete : ∀ m ∈ p.markers, m.standsInPath := fun m hm =>
    Ident.standsInPath_of_isName (isName_of_mem_markers hp hm)
  have hTrait := Ident.standsInPath_of_isName hp.stateTrait
  rw [stateItems]
  refine List.forall_mem_append.mpr ⟨List.forall_mem_append.mpr ⟨?before, hMarkers⟩, ?after⟩
  case before =>
    have hInner := List.all_eq_true.mpr (isNamed_sealedItems hp)
    simp +decide [Item.isNamed, hInner, hp.stateTrait]
  case after =>
    have hParameters := isNamed_slotParameters hp
    simp +decide +contextual [Item.isNamed, hParameters, hTrait, isNamed_openState, hComplete, Ty.isNamed]

theorem isNamed_slotSetter (slot : Nat) {field : Field} {marker : Ident} (hIdent : field.ident.isName)
    (hSetter : field.setter.isName) (hMarker : marker.isName) : (slotSetter p slot field marker).isNamed := by
  have hState : (p.stateWith slot marker).isNamed := by
    have hSlots (i : Nat) : (if i = slot then marker else slotIdent i).standsInPath := by
      split
      · exact Ident.standsInPath_of_isName hMarker
      · exact Ident.standsInPath_of_isName (isName_slotIdent i)
    simp [Plan.stateWith, Ty.isNamed, hSlots]
  simp +decide [slotSetter, Function.isNamed, Signature.isNamed, Expr.isNamed, hSetter,
    isNamed_storeValue hIdent, isNamed_setterParameter, isNamed_builderIn hp hState, isNamed_phantomPath,
    Ident.standsInPath_of_isName hp.stateBuilder]

theorem isNamed_setters (slot : Nat) {fields : List Field} (hFields : fields ⊆ p.fields) :
    ∀ f ∈ setters p slot fields, f.isNamed := by
  induction fields generalizing slot with
  | nil => exact List.forall_mem_nil _
  | cons field rest ih =>
    obtain ⟨hField, hRest⟩ := List.cons_subset.mp hFields
    obtain ⟨hIdent, hSetter, hNamed⟩ := hp.fields field hField
    rw [setters]
    cases hMarker : field.marker with
    | none => exact List.forall_mem_cons.mpr ⟨isNamed_plainSetter hIdent hSetter, ih slot hRest⟩
    | some marker =>
      have hSlot := isNamed_slotSetter hp slot hIdent hSetter (hNamed marker hMarker)
      exact List.forall_mem_cons.mpr ⟨hSlot, ih (slot + 1) hRest⟩

theorem isNamed_stateBuilderItems : ∀ item ∈ stateBuilderItems p, item.isNamed := by
  have hUnset := isNamed_builderIn hp (isNamed_unsetState (p := p))
  have hOpen := isNamed_builderIn hp (isNamed_openState (p := p))
  have hComplete : (p.builderIn (.ofIdent completeIdent)).isNamed := isNamed_builderIn hp (by decide)
  have hTrait := Ident.standsInPath_of_isName hp.stateTrait
  rw [stateBuilderItems]
  simp only [List.forall_mem_cons]
  refine ⟨?struct, ?new, ?default, ?setters, ?build, List.forall_mem_nil _⟩
  case struct =>
    simp +decide [Item.isNamed, TypeParameter.isNamed, Member.isNamed, hp.stateBuilder, hTrait, hp.record, Ty.isNamed,
      isNamed_phantomPath]
  case new => simp [Item.isNamed, hUnset, isNamed_newFunction]
  case default => simp +decide [Item.isNamed, hUnset, isNamed_defaultFunction]
  case setters =>
    have hSetters := isNamed_setters hp 0 (List.Subset.refl p.fields)
    simpa [Item.isNamed, hOpen] using ⟨isNamed_slotParameters hp, hSetters⟩
  case build =>
    simp +decide [Item.isNamed, hComplete, buildFunction, Function.isNamed, Signature.isNamed, Expr.isNamed, hp.record]

theorem isNamed_constructorParameters : ∀ q ∈ p.constructorParameters, q.1.isName ∧ q.2.isNamed := by
  refine List.forall_mem_map.mpr fun f hf => ⟨(hp.fields f (List.mem_of_mem_filter hf)).1, ?_⟩
  simp +decide [Ty.isNamed]

theorem isNamed_constructorArguments : ∀ e ∈ p.constructorArguments, e.isNamed := by
  refine List.forall_mem_map.mpr fun f hf => ?_
  rw [Expr.isNamed_var, Ident.standsInPath_of_isName (hp.fields f (List.mem_of_mem_filter hf)).1]

theorem isNamed_contextTy : p.contextTy.isNamed := by
  simp +decide [Plan.contextTy, Ty.isNamed, Plan.contextPath, hp.runtime, hp.record]

theorem isNamed_runtimeTrait {name : Ident} {arguments : List Ty} (hName : name.standsInPath)
    (hArguments : ∀ t ∈ arguments, t.isNamed) : (p.runtimeTrait name arguments).isNamed := by
  simpa [Plan.runtimeTrait, Ty.isNamed, hp.runtime, hName] using hArguments

omit hp in
theorem isNamed_blockMember {field : Field} (h : field.ident.isName) : (blockMember field).isNamed := by
  rw [blockMember, Member.isNamed, Bool.and_eq_true]
  refine ⟨h, ?_⟩
  dsimp only
  split <;> simp +decide

omit hp in
theorem isNamed_initialValue {field : Field} (h : field.ident.isName) :
    (initialValue field).1.isName ∧ (initialValue field).2.isNamed := by
  refine ⟨h, ?_⟩
  rw [initialValue]
  split <;> simp +decide [Expr.isNamed, Ident.standsInPath_of_isName h]

omit hp in
theorem isNamed_keyLocal {field : Field} {a : Association} (h : field.ident.isName) (ha : a.record.isNamed) :
    (keyLocal field a).isNamed := by
  simp +decide [keyLocal, Expr.isNamed, h, ha]

omit hp in
theorem isNamed_recordValue {field : Field} (h : field.ident.isName) :
    (recordValue p field).1.isName ∧ (recordValue p field).2.isNamed := by
  refine ⟨h, ?_⟩
  rw [recordValue]
  split
  · simp [Ident.standsInPath_of_isName h]
  · split <;> simp +decide [Expr.isNamed, h]

theorem isNamed_buildBody : ∀ s ∈ buildBody p, s.isNamed := by
  have hLocals : ∀ s ∈ p.fields.filterMap (keyLocal? p), s.isNamed := by
    intro s hs
    obtain ⟨f, hf, hLocal⟩ := List.mem_filterMap.mp hs
    obtain ⟨a, ha, rfl⟩ := Option.map_eq_some_iff.mp hLocal
    exact isNamed_keyLocal (hp.fields f hf).1 (hp.associations a (List.mem_of_find?_eq_some ha)).2
  have hValues : ∀ f ∈ p.fields, (recordValue p f).1.isName ∧ (recordValue p f).2.isNamed := fun f hf =>
    isNamed_recordValue (hp.fields f hf).1
  rw [buildBody, List.forall_mem_append, List.forall_mem_singleton]
  exact ⟨hLocals, by simpa [Expr.isNamed, hp.record] using hValues⟩

theorem isNamed_associateFunctions : ∀ f ∈ associateFunctions p, f.isNamed := by
  have hPersist : (p.runtimeTrait "Persist" []).isNamed := isNamed_runtimeTrait hp (by decide) (List.forall_mem_nil _)
  simp +decide [associateFunctions, Function.isNamed, Signature.isNamed, Ty.isNamed, selfReference,
    isNamed_contextTy hp, hPersist]

theorem isNamed_traitFunctions : ∀ f ∈ traitFunctions p, f.isNamed := by
  have hTrait : (p.runtimeTrait "DslTrait" [.ofIdent "Self"]).isNamed :=
    isNamed_runtimeTrait hp (by decide) (by decide)
  simp +decide [traitFunctions, Function.isNamed, Signature.isNamed, Ty.isNamed, selfReference, hTrait]

theorem isNamed_blockBuilderItems : ∀ item ∈ blockBuilderItems p, item.isNamed := by
  have hBuilder : (Ty.ofIdent p.blockBuilder).isNamed := by
    rw [Ty.isNamed_ofIdent, Ident.standsInPath_of_isName hp.blockBuilder]
  have hMembers : ∀ f ∈ p.fields, (blockMember f).isNamed := fun f hf => isNamed_blockMember (hp.fields f hf).1
  have hValues : ∀ f ∈ p.fields, (initialValue f).1.isName ∧ (initialValue f).2.isNamed := fun f hf =>
    isNamed_initialValue (hp.fields f hf).1
  have hStart : (p.contextPath.append ["new"]).isNamed := by
    simp +decide [Plan.contextPath, hp.runtime]
  rw [blockBuilderItems]
  simp only [List.forall_mem_cons]
  refine ⟨?struct, ?functions, List.forall_mem_nil _⟩
  case struct =>
    have hContext : ∀ m ∈ if p.hasAssociations then [(⟨false, associationsField, p.contextTy⟩ : Member)] else [],
        m.isNamed := by
      refine forall_mem_ite.mpr fun _ => List.forall_mem_singleton.mpr ?_
      simp +decide [Member.isNamed, isNamed_contextTy hp]
    rw [Item.isNamed, hp.blockBuilder, List.all_nil, Bool.true_and, Bool.true_and, Option.getD_some, List.all_eq_true]
    exact List.forall_mem_append.mpr ⟨List.forall_mem_map.mpr hMembers, hContext⟩
  case functions =>
    simp only [Item.isNamed, Bool.and_eq_true, List.all_eq_true, List.forall_mem_append, List.forall_mem_singleton,
      forall_mem_ite]
    refine ⟨⟨⟨by simp, by simp⟩, hBuilder⟩, ⟨⟨?new, fun _ => isNamed_associateFunctions hp⟩, isNamed_traitFunctions hp⟩,
      ?build⟩
    case new =>
      have hContext : ∀ v ∈ if p.hasAssociations then [((associationsField : Ident),
          Expr.call (.path (p.contextPath.append ["new"])) [])] else [], v.1.isName ∧ v.2.isNamed := by
        refine forall_mem_ite.mpr fun _ => List.forall_mem_singleton.mpr ?_
        simp +decide [Expr.isNamed, hStart]
      have hRecord := List.forall_mem_append.mpr ⟨List.forall_mem_map.mpr hValues, hContext⟩
      have hParameters := isNamed_constructorParameters hp
      simp +decide only [Function.isNamed, Signature.isNamed, Expr.isNamed, Expr.fieldsNamed_eq_all, Bool.and_eq_true,
        List.all_eq_true, Option.getD_some, List.forall_mem_singleton, Stmt.isNamed_give]
      exact ⟨⟨⟨trivial, hParameters⟩, trivial⟩, trivial, hRecord⟩
    case build =>
      have hBody := isNamed_buildBody hp
      simpa +decide [Function.isNamed, Signature.isNamed, hp.record] using hBody

theorem isNamed_factoryItems : ∀ item ∈ factoryItems p, item.isNamed := by
  have hArguments := isNamed_constructorArguments hp
  have hParameters := isNamed_constructorParameters hp
  have hBuilder := Ident.standsInPath_of_isName hp.blockBuilder
  rw [factoryItems]
  simp +decide +contextual [Item.isNamed, Function.isNamed, Signature.isNamed, Ty.isNamed, Expr.isNamed, hp.factory,
    hp.factoryWith, hp.record, hArguments, hParameters, hBuilder]

theorem isNamed_associationItems : ∀ item ∈ associationItems p, item.isNamed := by
  have hSignatures : ∀ a ∈ p.associations, (associationSignature a).isNamed := by
    intro a ha
    simp +decide [associationSignature, Signature.isNamed, Ty.isNamed, hp.associations a ha]
  rw [associationItems]
  cases hList : p.associations with
  | nil => simp
  | cons first rest =>
    rw [hList] at hSignatures
    have hTrait := Ident.standsInPath_of_isName hp.associationsTrait
    simp +decide +contextual [Item.isNamed, Function.isNamed, hp.associationsTrait, hTrait, isNamed_contextTy hp,
      hSignatures, Expr.isNamed]

end

theorem allNamed_stateUnit (hp : p.Spelled) : Item.allNamed (stateUnit p) := by
  rw [Item.allNamed_eq_all, List.all_eq_true]
  exact List.forall_mem_append.mpr ⟨isNamed_stateItems hp, isNamed_stateBuilderItems hp⟩

theorem allNamed_blockUnit (hp : p.Spelled) : Item.allNamed (blockUnit p) := by
  rw [Item.allNamed_eq_all, List.all_eq_true]
  exact List.forall_mem_append.mpr
    ⟨List.forall_mem_append.mpr ⟨isNamed_blockBuilderItems hp, isNamed_factoryItems hp⟩, isNamed_associationItems hp⟩

end RowFactory.Factory
