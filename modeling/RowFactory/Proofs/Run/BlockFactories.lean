import RowFactory.Proofs.Run.BlockContents

/-! # Factory functions with a block

A factory function starts a builder from its parameters, hands it to the block and gives its row.
-/

namespace RowFactory.Run

open Code
open Metadata (Table Package)
open Factory (Plan Field associationsField contextValues)
open Rows (Datum Defaults)

variable {σ : Type}

theorem scope_zip (names : List String) (values : List (Value σ)) (rest : Frame σ)
    (h : names.length = values.length) :
    Frame.scope (names.zip (values.map .value) ++ rest) = names.zip values ++ rest.scope := by
  induction names generalizing values with
  | nil => rfl
  | cons name names ih =>
    cases values with
    | nil => cases h
    | cons v values =>
      rw [List.map_cons, List.zip_cons_cons, List.cons_append, Frame.scope_cons, ih values (Nat.succ.inj h)]
      rfl

/-- What a new builder has: its parameters, and a context without rows. -/
def Contents.start (t : Table) (data : List Datum) : Contents σ where
  own column := (t.constructorFields.zip data).lookup column
  context := {}

section

variable {t : Table} {package : Package} {p : Plan} {d : Defaults} (h : Usable t package p)

include h

theorem map_name_constructorParameters : p.constructorParameters.map (·.1.name) = t.constructorFields := by
  rw [Plan.constructorParameters, List.map_map]
  exact h.map_ident_constructorFields

theorem find?_newValues {f : Field} (hf : f ∈ p.fields) :
    (p.fields.map Factory.initialValue ++ contextValues p).find? (·.1.name = f.name) =
      some (Factory.initialValue f) := by
  rw [List.find?_append, find?_map_ident h.regular fun f => rfl, Factory.find?_of_nodup h.regular.nodup hf]
  rfl

theorem find?_newContext (hAssociations : p.hasAssociations) :
    ∃ name, (p.fields.map Factory.initialValue ++ contextValues p).find? (·.1.name = associationsField) =
      some (name, .call (.path (p.contextPath.append ["new"])) []) := by
  have hNone : p.fields.find? (·.name = associationsField) = none :=
    List.find?_eq_none.mpr fun f hf hName => h.no_context hAssociations f hf (of_decide_eq_true hName)
  rw [List.find?_append, find?_map_ident h.regular fun f => rfl, hNone, contextValues, if_pos hAssociations]
  exact ⟨_, rfl⟩

omit h in
theorem value_newContext (calls : Calls σ) (scope : Scope σ) :
    value calls scope (.call (.path (p.contextPath.append ["new"])) []) = some (.context {}) := by
  have hNew : isNewContext (plainNames (p.contextPath.append ["new"])) := by
    rw [plainNames, Plan.contextPath, Path.append, Path.append]
    simp [isNewContext, Factory.contextType]
  rw [value, values]
  simp only [Option.bind_eq_bind, Option.bind_some, callPath, hNew, if_true]

theorem value_parameter (calls : Calls σ) (scope : Scope σ) {f : Field} (hf : f ∈ p.fields)
    (hConstructor : f.inConstructor) : value calls scope (.var f.ident) = scope.lookup f.name := by
  have hOther : f.name ≠ "None" := by
    intro hName
    have hColumn := h.avoids.parameters f.name ((h.inConstructor f hf).mp hConstructor)
    exact hColumn (hName ▸ (by decide))
  rw [← h.regular.ident f hf] at hOther ⊢
  exact value_var calls scope hOther

theorem value_initialValue (calls : Calls σ) {data : List Datum} (hLength : t.constructorFields.length = data.length)
    {f : Field} (hf : f ∈ p.fields) :
    ∃ v, value calls (t.constructorFields.zip (data.map .datum)) (Factory.initialValue f).2 = some v ∧
      Shows f.inConstructor ((t.constructorFields.zip data).lookup f.name) v := by
  have hLookup := Ascending.lookup_zip_map (Value.datum (σ := σ)) t.constructorFields data
  cases hConstructor : f.inConstructor with
  | true =>
    have hMem := (Ascending.isSome_lookup_zip hLength f.name).mpr ((h.inConstructor f hf).mp hConstructor)
    obtain ⟨d, hDatum⟩ := Option.isSome_iff_exists.mp hMem
    refine ⟨.datum d, ?_, d, hDatum, rfl⟩
    rw [Factory.initialValue, if_pos hConstructor]
    refine (value_into _ _ _ _).trans ((value_parameter h calls _ hf hConstructor).trans ?_)
    rw [hLookup, hDatum, Option.map_some]
  | false =>
    have hOther : f.name ∉ t.constructorFields := fun hMem => by
      rw [(h.inConstructor f hf).mpr hMem] at hConstructor
      cases hConstructor
    refine ⟨.absent, ?_, ?_⟩
    · rw [Factory.initialValue, if_neg (by rw [hConstructor]; exact Bool.false_ne_true)]
      exact value_none _ _
    · rw [(Ascending.lookup_zip_eq_none hLength).mpr hOther]
      rfl

theorem isSome_newValues (calls : Calls σ) {data : List Datum} (hLength : t.constructorFields.length = data.length) :
    ∀ field ∈ p.fields.map Factory.initialValue ++ contextValues p,
      (value calls (t.constructorFields.zip (data.map .datum)) field.2).isSome := by
  intro field hField
  rcases List.mem_append.mp hField with hField | hField
  · obtain ⟨f, hf, rfl⟩ := List.mem_map.mp hField
    obtain ⟨v, hv, -⟩ := value_initialValue h calls hLength hf
    rw [hv, Option.isSome_some]
  · rw [contextValues] at hField
    split at hField
    · rw [List.mem_singleton.mp hField, value_newContext, Option.isSome_some]
    · cases hField

theorem exists_startFrame_new {data : List Datum} (hLength : t.constructorFields.length = data.length) {f : Function}
    (hReceiver : f.signature.receiver = none) (hParameters : f.signature.parameters = p.constructorParameters) :
    ∃ frame : Frame σ, startFrame f none ((data.map .datum).map .value) = some frame ∧
      frame.scope = t.constructorFields.zip (data.map .datum) := by
  have hNames := map_name_constructorParameters h
  have hCount : p.constructorParameters.length = data.length := by
    rw [← hLength, ← hNames, List.length_map]
  refine ⟨_, startFrame_free hReceiver (by simpa [hParameters] using hCount), ?_⟩
  have hZip := scope_zip t.constructorFields (data.map (Value.datum (σ := σ))) [] (by simpa using hLength)
  rw [List.append_nil] at hZip
  rw [hParameters, hNames, hZip]
  exact List.append_nil _

theorem exists_newBuilder {data : List Datum} (hLength : t.constructorFields.length = data.length) (depth : Nat) :
    ∃ builder : Value σ, (callsOf (Factory.blockUnit p) d (depth + 1)).function (some (blockType p)) "new"
        (data.map .datum) = some builder ∧ Holds p (.start t data) builder := by
  obtain ⟨f, hMethod, hSignature, hBody⟩ := offers_new h.wellNamed
  obtain ⟨frame, hStart, hScope⟩ := exists_startFrame_new (σ := σ) h hLength (congrArg (·.receiver) hSignature)
    (congrArg (·.parameters) hSignature)
  obtain ⟨members, hMembers, -, hLookup⟩ :=
    exists_fieldValues (callsOf (Factory.blockUnit p) d depth) _ .nil (isSome_newValues h _ hLength)
  refine ⟨.object (blockType p) members, ?_, members, rfl, fun g hg => ?_, fun hAssociations => ?_⟩
  · have hResult : Method.resultType? ⟨blockType p, [], f⟩ = some (blockType p) := by
      rw [Method.resultType?, hSignature]
      rfl
    have hRecord : functionValue (callsOf (Factory.blockUnit p) d depth) f (data.map .datum) = _ :=
      functionValue_free hBody (congrArg (·.receiver) hSignature) hStart
    rw [hScope] at hRecord
    rw [callsOf_eq hMethod (hRecord.trans (value_record _ _ hMembers)), Method.stamp, hResult]
    rfl
  · obtain ⟨v, hv, hShows⟩ := value_initialValue h (callsOf (Factory.blockUnit p) d depth) hLength hg
    rw [hLookup, find?_newValues h hg]
    dsimp only
    rw [hv]
    exact hShows
  · obtain ⟨name, hFind⟩ := find?_newContext h hAssociations
    rw [hLookup, hFind]
    exact value_newContext _ _

theorem exists_value_build {s : Contents σ} {builder : Value σ} (hHolds : Holds p s builder) {scope : Scope σ}
    (hBuilder : scope.lookup "builder" = some builder) :
    ∃ v row, value (callsOf (Factory.blockUnit p) d callDepth) scope (.method (.var "builder") "build" [] []) = some v ∧
      v.row? = some row ∧ Reads t ⟨p, d⟩ (s.wanted t package) row := by
  obtain ⟨f, hMethod, hSignature, hBody⟩ := offers_build h.wellNamed
  obtain ⟨v, row, hValue, hRow, hReads⟩ := exists_built h hHolds (defaults_callsOf (Factory.blockUnit p) d 1)
    (congrArg (·.output) hSignature)
  have hFunction : functionValue (callsOf (Factory.blockUnit p) d 1) f [builder] = some v :=
    (functionValue_self hBody (by rw [hSignature]; rfl) (startFrame_build hSignature builder)).trans hValue
  have hVariable : value (callsOf (Factory.blockUnit p) d callDepth) scope (.var "builder") = some builder :=
    (value_var _ _ (by decide)).trans hBuilder
  obtain ⟨members, rfl, -⟩ := hHolds
  refine ⟨_, row, ?_, hRow, hReads⟩
  rw [← callsOf_eq hMethod hFunction, value, hVariable, values]
  · rfl
  all_goals simp

theorem values_constructorArguments (calls : Calls σ) {data : List Datum}
    (hLength : t.constructorFields.length = data.length) :
    values calls (t.constructorFields.zip (data.map .datum)) p.constructorArguments = some (data.map .datum) := by
  have hIdents := h.map_ident_constructorFields
  have hSame : (p.constructorFields.map (·.ident)).length = (data.map (Value.datum (σ := σ))).length := by
    rw [List.length_map, List.length_map, ← hLength, ← hIdents, List.length_map]
  have hArguments : p.constructorArguments = (p.constructorFields.map (·.ident)).map .var := by
    rw [Plan.constructorArguments, List.map_map]
    rfl
  rw [hArguments]
  refine values_var calls _ (List.forall₂_iff_get.mpr ⟨hSame, fun i h₁ h₂ => ?_⟩)
  rw [List.length_map] at h₁
  have hColumn : t.constructorFields[i]? = some (p.constructorFields.get ⟨i, h₁⟩).ident.name := by
    rw [← hIdents, List.getElem?_map, List.getElem?_eq_getElem h₁]
    rfl
  rw [List.get_eq_getElem, List.getElem_map]
  constructor
  · intro hName
    exact h.avoids.parameters _ (List.mem_of_getElem? hColumn) (hName ▸ (by decide))
  · exact Ascending.lookup_zip h.nodup_constructorFields hColumn (List.getElem?_eq_getElem h₂)

theorem exists_factoryWith : ∃ f, function? (Factory.blockUnit p) p.factoryWith.name = some f ∧
    f.signature.receiver = none ∧
    f.signature.parameters.map (·.1.name) = t.constructorFields ++ [Factory.blockParameter] ∧
    f.body = some [
      .bind true "builder" (.call (.names [p.blockBuilder, "new"]) p.constructorArguments),
      .run (.call (.var Factory.blockParameter) [.borrow (.var "builder")]),
      .give (.method (.var "builder") "build" [] [])] := by
  obtain ⟨doc, attributes, members, hItems⟩ := exists_blockBuilderItems p
  rw [function?, if_pos h.wellNamed, Factory.blockUnit, hItems, Factory.factoryItems]
  simp only [List.cons_append, List.nil_append, List.findSome?_cons, if_neg h.factory_ne, if_true]
  refine ⟨_, rfl, rfl, ?_, rfl⟩
  rw [List.map_append, map_name_constructorParameters h]
  rfl

def factoryFrame (t : Table) (data : List Datum) (block : Value σ → Action σ (Value σ)) : Frame σ :=
  t.constructorFields.zip ((data.map .datum).map .value) ++ [(Factory.blockParameter, .block block)]

omit h in
theorem scope_factoryFrame {data : List Datum} (hLength : t.constructorFields.length = data.length)
    (block : Value σ → Action σ (Value σ)) :
    (factoryFrame t data block).scope = t.constructorFields.zip (data.map .datum) := by
  rw [factoryFrame, scope_zip _ _ _ (by rw [List.length_map, hLength])]
  exact List.append_nil _

theorem argument?_block {data : List Datum} (hLength : t.constructorFields.length = data.length)
    (block : Value σ → Action σ (Value σ)) (builder : Value σ) :
    argument? ((factoryFrame t data block).set "builder" builder) (.var Factory.blockParameter) =
      some (.block block) := by
  -- A column of the block's name is a collision, so that no parameter hides the block.
  have hOther : Factory.blockParameter ∉ t.constructorFields := by
    rw [← h.constructorFields]
    intro hMem
    obtain ⟨f, hf, hName⟩ := List.mem_map.mp hMem
    exact h.no_block f hf hName
  have hNone : (t.constructorFields.zip ((data.map .datum).map (Argument.value (σ := σ)))).lookup
      Factory.blockParameter = none := by
    have hCount : t.constructorFields.length = ((data.map .datum).map (Argument.value (σ := σ))).length := by
      simpa using hLength
    exact (Ascending.lookup_zip_eq_none hCount).mpr hOther
  change ((factoryFrame t data block).set "builder" builder).lookup Factory.blockParameter = _
  rw [Frame.set, Ascending.lookup_cons, if_neg (by decide), factoryFrame, List.lookup_append, hNone]
  rfl

omit h in
theorem callPath_new (calls : Calls σ) {type : Ident} (hRaw : type.raw = false)
    (hOther : type.name ≠ Factory.contextType) (arguments : List (Value σ)) :
    callPath calls ⟨false, [type, "new"].map fun i => ⟨i, []⟩⟩ arguments =
      calls.function (some (.ofIdent type)) "new" arguments := by
  obtain ⟨name, raw⟩ := type
  obtain rfl : raw = false := hRaw
  have hContext : isNewContext [name, "new"] = false := by
    rw [isNewContext]
    split
    · rename_i hNames
      rw [List.reverse_cons, List.reverse_singleton, List.singleton_append, List.cons.injEq, List.cons.injEq] at hNames
      exact absurd hNames.2.1 hOther
    · rfl
  have hNames : plainNames ⟨false, [(⟨name, false⟩ : Ident), "new"].map fun i => ⟨i, []⟩⟩ = [name, "new"] := rfl
  simp only [callPath, hNames, hContext]
  rw [if_neg Bool.false_ne_true]
  split <;> simp_all

theorem exists_value_new {data : List Datum} (hLength : t.constructorFields.length = data.length) :
    ∃ builder : Value σ, value (callsOf (Factory.blockUnit p) d callDepth)
        (t.constructorFields.zip (data.map .datum)) (.call (.names [p.blockBuilder, "new"]) p.constructorArguments) =
          some builder ∧ Holds p (.start t data) builder := by
  obtain ⟨builder, hNew, hHolds⟩ := exists_newBuilder (d := d) h hLength 1
  refine ⟨builder, ?_, hHolds⟩
  rw [Expr.names, value, values_constructorArguments h _ hLength, Option.bind_eq_bind, Option.bind_some,
    callPath_new _ h.blockBuilder_raw h.blockBuilder_ne]
  exact hNew

theorem perform_block {data : List Datum} (hLength : t.constructorFields.length = data.length)
    (block : Value σ → Action σ (Value σ)) (builder : Value σ) :
    perform (callsOf (Factory.blockUnit p) d callDepth) ((factoryFrame t data block).set "builder" builder)
        (.call (.var Factory.blockParameter) [.borrow (.var "builder")]) =
      block builder >>= fun new => pure (((factoryFrame t data block).set "builder" builder).set "builder" new) := by
  rw [perform_call (argument?_block h hLength _ builder)]
  exact changeAt_eq rfl rfl rfl (fun new => rfl) _

/-- A factory function gives the row that its builder's contents ask for once the block has changed them. -/
theorem agree_makeRowWith {data : List Datum} (hLength : t.constructorFields.length = data.length)
    {operations : List (Operation σ)} (hFits : ∀ o ∈ operations, o.Fits t) :
    Agree (fun row (s : Contents σ) => Reads t ⟨p, d⟩ (s.wanted t package) row)
      (makeRowWith ⟨p, d⟩ (data.map .datum) operations) ((Contents.start t data).performAll t operations) := by
  obtain ⟨f, hFunction, hReceiver, hNames, hBody⟩ := exists_factoryWith h
  obtain ⟨builder, hBuilder, hHolds⟩ := exists_value_new (σ := σ) (d := d) h hLength
  have hStart : startFrame f none
      ((data.map Value.datum).map Argument.value ++ [Argument.block (applyAll ⟨p, d⟩ operations)]) =
      some (factoryFrame t data (applyAll ⟨p, d⟩ operations)) := by
    have hCount : f.signature.parameters.length =
        ((data.map Value.datum).map Argument.value ++ [Argument.block (applyAll ⟨p, d⟩ operations)]).length := by
      have hCount := congrArg List.length hNames
      simpa [hLength] using hCount
    rw [startFrame_free hReceiver hCount, hNames, factoryFrame, List.zip_append (by simpa using hLength)]
    rfl
  -- The frame of the function has the scope of its constructor: a block is no value.
  rw [← scope_factoryFrame hLength (applyAll ⟨p, d⟩ operations)] at hBuilder
  have hRun := (runBody_bind hBuilder true "builder" _).trans (runBody_run_bind (perform_block h hLength _ builder)
    [.give (.method (.var "builder") "build" [] [])])
  simp only [makeRowWith, callFunction, hFunction, hBody, hStart, hRun, bind_assoc, pure_bind]
  rw [← bind_pure (Contents.performAll t operations _)]
  refine (agree_applyAll h hFits hHolds).bind fun new s hNew => ?_
  have hLast (frame : Frame σ) : (frame.set "builder" new).scope.lookup "builder" = some new := rfl
  obtain ⟨v, row, hValue, hRow, hReads⟩ := exists_value_build h hNew (hLast _)
  rw [runBody_give hValue, pure_bind]
  dsimp only
  rw [hRow]
  exact Agree.pure hReads

end

end RowFactory.Run
