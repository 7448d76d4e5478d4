import Mathlib.Data.List.Find
import RowFactory.Proofs.Ascending
import RowFactory.Proofs.Run.BlockLookup
import RowFactory.Proofs.Run.Names

/-! # What `build` gives

Each column of the record is the builder's own value, or else what the association of the column finds in the
context.
-/

namespace RowFactory.Run

open Code
open Factory (Plan Field Association associationsField)
open Rows (Datum Defaults Row Context)

variable {σ : Type} {p : Plan}

/-- The values of a builder's fields, and its association context. -/
structure Contents (σ : Type) where
  own : String → Option Datum
  context : Context σ Row

def found (a : Association) (c : Context σ Row) : Option Datum :=
  ((c.row? a.field).filter (·.type = a.record)).bind (·.column? primaryKeyColumn)

def built (p : Plan) (s : Contents σ) (column : String) : Option Datum :=
  s.own column <|> (p.association? column).bind (found · s.context)

/-- A builder's member for a field. A field of the constructor always has a value. -/
def Shows (inConstructor : Bool) (own : Option Datum) (v : Value σ) : Prop :=
  if inConstructor then ∃ d, own = some d ∧ v = .datum d else v = .ofDatum? own

structure Shown (p : Plan) (s : Contents σ) (members : List (String × Value σ)) : Prop where
  fields : ∀ f ∈ p.fields, Shows f.inConstructor (s.own f.name) ((members.lookup f.name).getD .absent)
  context : p.hasAssociations → members.lookup associationsField = some (.context s.context)

theorem member?_ofRow (row : Row) (column : String) :
    (Value.ofRow (σ := σ) row).member? column = some (.ofDatum? (row.column? column)) := by
  rw [Value.ofRow, Value.member?, lookup_members, Row.column?]
  cases row.columns.lookup column <;> rfl

theorem associatedRow_context (record : Path) (key : String) (c : Context σ Row) :
    associatedRow [.ofPath record] key (.context c) =
      some (((c.row? key).filter (·.type = record)).elim .absent fun row => .present (.ofRow row)) := by
  cases hRow : c.row? key with
  | none => simp [associatedRow, hRow]
  | some row => by_cases hType : row.type = record <;> simp [associatedRow, Ty.ofPath, hRow, hType, Option.filter]

theorem value_found (calls : Calls σ) {scope : Scope σ} {type : Ty} {members : List (String × Value σ)}
    {c : Context σ Row} (hSelf : scope.lookup "self" = some (.object type members))
    (hContext : members.lookup associationsField = some (.context c)) (a : Association) :
    value calls scope
      (.method (.method (.field .self associationsField) "get" [.ofPath a.record] [.text a.field]) "and_then" []
        [.closure ["associated"] false (.field (.var "associated") "id")]) =
      some (.ofDatum? (found a c)) := by
  have hMember : value calls scope (.field .self associationsField) = some (.context c) := by
    rw [value_field, value_self, hSelf]
    change some ((members.lookup associationsField).getD .absent) = _
    rw [hContext]
    rfl
  have hGet : value calls scope (.method (.field .self associationsField) "get" [.ofPath a.record] [.text a.field]) =
      associatedRow [.ofPath a.record] a.field (.context c) := by
    rw [value_get, hMember]
    rfl
  rw [associatedRow_context] at hGet
  rw [found]
  cases hRow : (c.row? a.field).filter (·.type = a.record) with
  | none =>
    rw [hRow] at hGet
    exact value_and_then_absent _ _ hGet _ _ _ _
  | some row =>
    rw [hRow] at hGet
    rw [value_and_then_present _ _ hGet, value_field, value_var _ _ (by decide)]
    exact member?_ofRow row "id"

theorem value_or_found (calls : Calls σ) {scope : Scope σ} {type : Ty} {members : List (String × Value σ)}
    {c : Context σ Row} (hSelf : scope.lookup "self" = some (.object type members))
    (hContext : members.lookup associationsField = some (.context c)) {own : Option Datum} {name : Ident}
    (hOwn : (members.lookup name.name).getD .absent = .ofDatum? own) (a : Association) :
    value calls scope (.method (.field .self name) "or_else" [] [.closure [] true
      (.method (.method (.field .self associationsField) "get" [.ofPath a.record] [.text a.field]) "and_then" []
        [.closure ["associated"] false (.field (.var "associated") "id")])]) =
      some (.ofDatum? (own <|> found a c)) := by
  have hMember : value calls scope (.field .self name) = some (.ofDatum? own) := by
    rw [value_field, value_self, hSelf]
    exact congrArg some hOwn
  cases own with
  | none =>
    rw [value_or_else_absent _ _ hMember]
    exact value_found calls hSelf hContext a
  | some d => exact value_or_else_present _ _ hMember _ _ _

def withReferences (p : Plan) (s : Contents σ) : List Field → Scope σ → Scope σ
  | [], scope => scope
  | f :: rest, scope =>
    withReferences p s rest
      (if (p.association? f.name).isSome then (f.name, .ofDatum? (built p s f.name)) :: scope else scope)

theorem lookup_withReferences (p : Plan) (s : Contents σ) (fields : List Field) (scope : Scope σ) (column : String) :
    (withReferences p s fields scope).lookup column =
      if (p.association? column).isSome ∧ column ∈ fields.map (·.name) then some (.ofDatum? (built p s column))
      else scope.lookup column := by
  induction fields generalizing scope with
  | nil => simp [withReferences]
  | cons f rest ih =>
    rw [withReferences, ih]
    simp only [List.map_cons, List.mem_cons]
    by_cases hRest : (p.association? column).isSome ∧ column ∈ rest.map (·.name)
    · rw [if_pos hRest, if_pos ⟨hRest.1, .inr hRest.2⟩]
    · rw [if_neg hRest]
      split
      · rename_i hAssociation
        rw [Ascending.lookup_cons]
        by_cases hName : column = f.name
        · rw [if_pos hName, hName, if_pos ⟨hAssociation, .inl rfl⟩]
        · rw [if_neg hName, if_neg fun h => hRest ⟨h.1, h.2.resolve_left hName⟩]
      · rename_i hAssociation
        rw [if_neg]
        rintro ⟨hSome, rfl | hMem⟩
        · exact hAssociation hSome
        · exact hRest ⟨hSome, hMem⟩

theorem find?_map_ident (h : p.Regular) {e : Field → Ident × Expr} (he : ∀ f, (e f).1 = f.ident) (column : String) :
    (p.fields.map e).find? (·.1.name = column) = (p.fields.find? (·.name = column)).map e := by
  rw [List.find?_map]
  refine congrArg (Option.map e) (List.find?_congr fun f hf => ?_)
  rw [Function.comp, he, h.ident f hf]

section Build

variable {t : Metadata.Table} {package : Metadata.Package} (h : p.Keyed t package) {s : Contents σ}
  {type : Ty} {members : List (String × Value σ)} (hShown : Shown p s members) (calls : Calls σ)

include h hShown

theorem value_keyLocal {f : Field} (hf : f ∈ p.fields) {a : Association} (ha : p.association? f.name = some a)
    {scope : Scope σ} (hSelf : scope.lookup "self" = some (.object type members)) (rest : List Stmt) :
    bodyValue calls scope (Factory.keyLocal f a :: rest) =
      bodyValue calls ((f.name, .ofDatum? (built p s f.name)) :: scope) rest := by
  have hOwn : (members.lookup f.ident.name).getD .absent = .ofDatum? (s.own f.name) := by
    have hShows := hShown.fields f hf
    rw [Shows, h.inConstructor_eq_false hf ha] at hShows
    rw [h.regular.ident f hf]
    exact hShows
  have hContext := hShown.context (Plan.hasAssociations_of_association? ha)
  rw [Factory.keyLocal, bodyValue, value_or_found calls hSelf hContext hOwn, h.regular.ident f hf, built, ha]
  rfl

theorem bodyValue_references (rest : List Stmt) {fields : List Field} (hFields : fields ⊆ p.fields)
    {scope : Scope σ} (hSelf : scope.lookup "self" = some (.object type members)) :
    bodyValue calls scope (fields.filterMap (Factory.keyLocal? p) ++ rest) =
      bodyValue calls (withReferences p s fields scope) rest := by
  induction fields generalizing scope with
  | nil => rfl
  | cons f fields ih =>
    obtain ⟨hf, hFields⟩ := List.cons_subset.mp hFields
    rw [withReferences]
    cases ha : p.association? f.name with
    | none =>
      rw [List.filterMap_cons_none (by rw [Factory.keyLocal?, ha, Option.map_none]), ih hFields hSelf]
      rfl
    | some a =>
      -- A reference of the name `self` would hide the builder from those after it.
      have hNext : List.lookup "self" ((f.name, .ofDatum? (built p s f.name)) :: scope) =
          some (.object type members) := by
        rw [Ascending.lookup_cons, if_neg (h.name_ne_self f hf).symm, hSelf]
      rw [List.filterMap_cons_some (by rw [Factory.keyLocal?, ha, Option.map_some]), List.cons_append,
        value_keyLocal h hShown calls hf ha hSelf, ih hFields hNext]
      rfl

theorem value_recordValue {f : Field} (hf : f ∈ p.fields) {scope : Scope σ}
    (hSelf : scope.lookup "self" = some (.object type members))
    (hReference : (p.association? f.name).isSome →
      f.name ≠ "None" ∧ scope.lookup f.name = some (.ofDatum? (built p s f.name))) :
    value calls scope (Factory.recordValue p f).2 = some (.ofDatum? (built p s f.name)) := by
  have hMember : value calls scope (.field .self f.ident) = some ((members.lookup f.name).getD .absent) := by
    rw [value_field, value_self, hSelf, ← h.regular.ident f hf]
    rfl
  cases ha : p.association? f.name with
  | some a =>
    obtain ⟨hOther, hLookup⟩ := hReference (by rw [ha, Option.isSome_some])
    rw [← h.regular.ident f hf] at hOther hLookup
    rw [Factory.recordValue, ha]
    exact (value_var calls scope hOther).trans (h.regular.ident f hf ▸ hLookup)
  | none =>
    -- No association fills the column in, so that only the builder's own value is left.
    have hBuilt : built p s f.name = s.own f.name := by
      rw [built, ha]
      cases s.own f.name <;> rfl
    have hShows := hShown.fields f hf
    rw [hBuilt, Factory.recordValue, ha]
    cases hConstructor : f.inConstructor with
    | true =>
      rw [hConstructor] at hShows
      obtain ⟨d, hOwn, hDatum⟩ := hShows
      change value calls scope (.call (.var "Some") [.field .self f.ident]) = _
      rw [value_some, hMember, hDatum, hOwn]
      rfl
    | false =>
      rw [hConstructor] at hShows
      exact hMember.trans (congrArg some hShows)

/-- The body of `build` gives a record with what `build` gives for each column of the table, and with the defaults of
the others. -/
theorem bodyValue_buildBody (hAvoids : AvoidsVariants t) {scope : Scope σ}
    (hSelf : scope.lookup "self" = some (.object type members)) :
    ∃ columns, bodyValue calls scope (Factory.buildBody p) = some (.object (.ofPath p.record) columns) ∧
      (columns.Pairwise fun a b => a.1 < b.1) ∧
      ∀ column, columns.lookup column =
        if column ∈ t.fields then some (.ofDatum? (built p s column))
        else (Value.members calls.defaults.columns).lookup column := by
  -- No field is called `self`, so that the variables of the references hide nothing.
  have hInner : (withReferences p s p.fields scope).lookup "self" = some (.object type members) := by
    rw [lookup_withReferences, if_neg, hSelf]
    rintro ⟨_, hMem⟩
    obtain ⟨f, hf, hName⟩ := List.mem_map.mp hMem
    exact h.name_ne_self f hf hName
  have hValue : ∀ f ∈ p.fields, value calls (withReferences p s p.fields scope) (Factory.recordValue p f).2 =
      some (.ofDatum? (built p s f.name)) := by
    intro f hf
    refine value_recordValue h hShown calls hf hInner fun hSome => ⟨?_, ?_⟩
    · exact fun hName => hAvoids.notMem_of_association? h hSome (hName ▸ (by decide))
    · rw [lookup_withReferences, if_pos ⟨hSome, List.mem_map_of_mem hf⟩]
  obtain ⟨columns, hColumns, hAscending, hLookup⟩ :=
    exists_fieldValues calls _ (pairwise_members calls.defaults.ascending) fun field hField => by
      obtain ⟨f, hf, rfl⟩ := List.mem_map.mp hField
      exact Option.isSome_of_eq_some (hValue f hf)
  refine ⟨columns, ?_, hAscending, fun column => ?_⟩
  · rw [Factory.buildBody, bodyValue_references h hShown calls _ (List.Subset.refl _) hSelf]
    exact value_filledRecord calls _ hColumns
  · rw [hLookup, find?_map_ident h.regular fun f => rfl, ← h.names]
    by_cases hMem : column ∈ p.fields.map (·.name)
    · obtain ⟨f, hf, rfl⟩ := List.mem_map.mp hMem
      rw [if_pos hMem, Factory.find?_of_nodup h.regular.nodup hf]
      exact hValue f hf
    · have hNone : p.fields.find? (·.name = column) = none :=
        List.find?_eq_none.mpr fun f hf hName => hMem (List.mem_map.mpr ⟨f, hf, of_decide_eq_true hName⟩)
      rw [if_neg hMem, hNone]
      rfl

end Build

theorem datum?_ofDatum? (o : Option Datum) : (Value.ofDatum? (σ := σ) o).datum? = o := by
  cases o <;> rfl

/-- The only type that the implementation of a builder can give another meaning to is its own. -/
theorem exists_apply_self (target path : Path) : ∃ type,
    Substitution.apply [("Self", .ofPath target)] (.ofPath path) = .ofPath type ∧
      (path ≠ .ofIdent "Self" → type = path) := by
  rw [Substitution.apply_ofPath]
  unfold Substitution.find?
  split
  · rename_i name
    by_cases hName : name = "Self"
    · subst hName
      exact ⟨target, rfl, fun hOther => absurd rfl hOther⟩
    · refine ⟨_, ?_, fun _ => rfl⟩
      rw [List.lookup_cons, beq_eq_false_iff_ne.mpr hName]
      rfl
  · exact ⟨path, rfl, fun _ => rfl⟩

/-- A row of a table that has the given values, and in other columns the defaults of its record. -/
structure Reads (t : Metadata.Table) (g : Program) (values : String → Option Datum) (row : Row) : Prop where
  columns : ∀ column, row.column? column = if column ∈ t.fields then values column else g.defaults.column? column
  type : g.plan.record ≠ .ofIdent "Self" → row.type = g.plan.record

theorem exists_row {t : Metadata.Table} {d : Defaults} {s : Contents σ} {columns : List (String × Value σ)}
    (hAscending : columns.Pairwise fun a b => a.1 < b.1)
    (hLookup : ∀ column, columns.lookup column =
      if column ∈ t.fields then some (.ofDatum? (built p s column)) else (Value.members d.columns).lookup column)
    {f : Function} (hOutput : f.signature.output = some (.ofPath p.record)) :
    ∃ row, (Method.stamp ⟨blockType p, [], f⟩ (.object (.ofPath p.record) columns)).row? = some row ∧
      Reads t ⟨p, d⟩ (built p s) row := by
  obtain ⟨type, hType, hSame⟩ := exists_apply_self (.ofIdent p.blockBuilder) p.record
  have hResult : Method.resultType? ⟨blockType p, [], f⟩ = some (.ofPath type) := by
    rw [Method.resultType?, hOutput]
    exact congrArg some hType
  refine ⟨⟨type, columns.filterMap fun entry => entry.2.datum?.map fun d => (entry.1, d)⟩, ?_, fun column => ?_, hSame⟩
  · rw [Method.stamp, hResult]
    rfl
  · rw [Row.column?, Ascending.lookup_filterMap _ hAscending, hLookup]
    split
    · exact datum?_ofDatum? _
    · rw [lookup_members, Defaults.column?]
      cases d.columns.lookup column <;> rfl

end RowFactory.Run
