import Mathlib.Logic.Function.Basic
import RowFactory.Proofs.Run.Agreement
import RowFactory.Proofs.Run.BlockBuild
import RowFactory.Proofs.Run.BlockCalls

/-! # Builders and their contents

What a builder holds is the values of its fields and the rows of its association context. Operations change a
builder as they change these contents, and `build` gives the row that the contents ask for.
-/

namespace RowFactory.Run

open Code
open Metadata (Table Package)
open Factory (Plan associationsField)
open Rows (Datum Defaults Row Context)

variable {σ : Type}

namespace Contents

/-- The key of the row that is associated with a column, if it has the type that the column refers to. -/
def associated (t : Table) (package : Package) (s : Contents σ) (column : String) : Option Datum := do
  let key ← t.foreignKey? column
  let row ← s.context.row? column
  if (Path.ofType (package.moduleOf key.recordType) key.recordType).toOption = some row.type then
    row.column? primaryKeyColumn
  else none

/-- What a row has to hold for a column. -/
def wanted (t : Table) (package : Package) (s : Contents σ) (column : String) : Option Datum :=
  s.own column <|> s.associated t package column

def given : Value σ → Option Datum
  | .datum d => some d
  | v => v.datum?

def performEntry (t : Table) (e : Entry σ) (s : Contents σ) : Action σ (Contents σ) :=
  match e with
  | .method name make =>
    match t.foreignKeys.find? (·.singularName = name) with
    | some key => do
      let row ← make
      let context ← OptionT.lift (s.context.associate key.field row)
      return { s with context }
    | none => failure
  | .register key row => pure { s with context := s.context.register key row }

def perform (t : Table) (o : Operation σ) (s : Contents σ) : Action σ (Contents σ) :=
  match o with
  | .assign field v => pure { s with own := Function.update s.own field (given v) }
  | .persistWith persister => do
    let context ← OptionT.lift (s.context.setPersister persister)
    return { s with context }
  | .associate entries => entries.foldlM (fun s e => performEntry t e s) s
  | .configure _ | .configureAll _ => failure

def performAll (t : Table) (operations : List (Operation σ)) (s : Contents σ) : Action σ (Contents σ) :=
  operations.foldlM (fun s o => perform t o s) s

end Contents

def Entry.Fits (t : Table) : Entry σ → Prop
  | .method name _ => ∃ key ∈ t.foreignKeys, key.singularName = name
  | .register _ _ => True

/-- A builder of a table has the field or the function that a block uses, and a field takes the value. -/
def Operation.Fits (t : Table) : Operation σ → Prop
  | .assign field v => field ∈ t.fields ∧ ∃ own, Shows (decide (field ∈ t.constructorFields)) own v
  | .persistWith _ => t.foreignKeys ≠ []
  | .associate entries => t.foreignKeys ≠ [] ∧ ∀ e ∈ entries, e.Fits t
  | .configure _ | .configureAll _ => False

def Holds (p : Plan) (s : Contents σ) (builder : Value σ) : Prop :=
  ∃ members, builder = .object (blockType p) members ∧ Shown p s members

def buildRow (g : Program) (builder : Value σ) : Action σ Row := do
  let (record, _) ← callMethod (Factory.blockUnit g.plan) g.defaults (blockType g.plan) "build" (some builder) []
  record.row?.elim failure pure

theorem given_of_shows {inConstructor : Bool} {own : Option Datum} {v : Value σ} (hShows : Shows inConstructor own v) :
    Contents.given v = own := by
  cases inConstructor with
  | true =>
    obtain ⟨d, rfl, rfl⟩ := hShows
    rfl
  | false =>
    obtain rfl : v = .ofDatum? own := hShows
    cases own <;> rfl

section

variable {t : Table} {package : Package} {p : Plan} {d : Defaults} (h : Usable t package p)

include h

theorem built_eq_wanted (s : Contents σ) : built p s = s.wanted t package := by
  funext column
  rw [built, Contents.wanted, Contents.associated]
  congr 1
  funext _
  cases hKey : t.foreignKey? column with
  | none =>
    rw [h.association?_eq_none (by rw [Table.isForeignKey, hKey, Option.isSome_none])]
    rfl
  | some key =>
    have hField : key.field = column := of_decide_eq_true (List.find?_eq_some_iff_append.mp hKey).1
    obtain ⟨a, -, hPlanned, hAssociation⟩ := h.exists_association (List.mem_of_find?_eq_some hKey)
    rw [← hField, hAssociation, Option.bind_some, found, hPlanned.field, Option.bind_eq_bind, Option.bind_some,
      hPlanned.record]
    cases s.context.row? key.field with
    | none => rfl
    | some row => by_cases hType : row.type = a.record <;> simp [Option.filter, Except.toOption, hType, eq_comm]

theorem exists_built {s : Contents σ} {builder : Value σ} (hHolds : Holds p s builder) {calls : Calls σ}
    (hDefaults : calls.defaults = d) {f : Function} (hOutput : f.signature.output = some (.ofPath p.record)) :
    ∃ v row, bodyValue calls [("self", builder)] (Factory.buildBody p) = some v ∧
      (Method.stamp ⟨blockType p, [], f⟩ v).row? = some row ∧ Reads t ⟨p, d⟩ (s.wanted t package) row := by
  obtain ⟨members, rfl, hShown⟩ := hHolds
  have hSelf : List.lookup "self" [("self", Value.object (blockType p) members)] =
      some (.object (blockType p) members) := rfl
  obtain ⟨columns, hValue, hAscending, hLookup⟩ := bodyValue_buildBody h.toKeyed hShown calls h.avoids hSelf
  rw [hDefaults] at hLookup
  obtain ⟨row, hRow, hReads⟩ := exists_row hAscending hLookup hOutput
  exact ⟨_, row, hValue, hRow, built_eq_wanted h s ▸ hReads⟩

omit h in
theorem startFrame_build {f : Function}
    (hSignature : f.signature = { name := "build", receiver := some .value, output := some (.ofPath p.record) })
    (builder : Value σ) : startFrame f (some builder) [] = some [("self", .value builder)] :=
  startFrame_eq (by rw [hSignature]; rfl) (by rw [hSignature, List.map_nil]) rfl

theorem buildRow_eq {s : Contents σ} {builder : Value σ} (hHolds : Holds p s builder) :
    ∃ row, buildRow ⟨p, d⟩ builder = pure row ∧ Reads t ⟨p, d⟩ (s.wanted t package) row := by
  obtain ⟨f, hMethod, hSignature, hBody⟩ := offers_build h.wellNamed
  obtain ⟨v, row, hValue, hRow, hReads⟩ := exists_built h hHolds
    (defaults_callsOf (Factory.blockUnit p) d callDepth) (congrArg (·.output) hSignature)
  obtain ⟨after, hRun⟩ : ∃ after, runBody _ [("self", .value builder)] _ = _ := runBody_of_bodyValue hValue
  refine ⟨row, ?_, hReads⟩
  rw [buildRow, callMethod_eq hMethod hBody (startFrame_build hSignature builder) hRun, pure_bind]
  dsimp only
  rw [hRow]
  rfl

theorem exists_field {column : String} (hColumn : column ∈ t.fields) : ∃ f ∈ p.fields, f.name = column :=
  List.mem_map.mp (h.names ▸ hColumn)

theorem hasAssociations (hKeys : t.foreignKeys ≠ []) : p.hasAssociations := by
  obtain ⟨key, hKey⟩ := List.exists_mem_of_ne_nil _ hKeys
  obtain ⟨a, -, -, hAssociation⟩ := h.exists_association hKey
  exact Plan.hasAssociations_of_association? hAssociation

theorem shown_assign {s : Contents σ} {members : List (String × Value σ)} (hShown : Shown p s members)
    {field : String} {v : Value σ} (hFits : (Operation.assign field v).Fits t) :
    Shown p { s with own := Function.update s.own field (Contents.given v) } (Ascending.put field v members) := by
  obtain ⟨hField, own, hShows⟩ := hFits
  refine ⟨fun f hf => ?_, fun hAssociations => ?_⟩
  · rw [Ascending.lookup_put]
    dsimp only
    by_cases hName : f.name = field
    · have hConstructor : f.inConstructor = decide (field ∈ t.constructorFields) := by
        rw [Bool.eq_iff_iff, h.inConstructor f hf, decide_eq_true_iff, hName]
      rw [if_pos hName, hConstructor, hName, Function.update_self, given_of_shows hShows]
      exact hShows
    · rw [if_neg hName, Function.update_of_ne hName]
      exact hShown.fields f hf
  · obtain ⟨f, hf, hName⟩ := exists_field h hField
    rw [Ascending.lookup_put, if_neg, hShown.context hAssociations]
    exact fun hSame => h.no_context hAssociations f hf (hName.trans hSame.symm)

theorem shown_withContext (hAssociations : p.hasAssociations) {s : Contents σ} {members : List (String × Value σ)}
    (hShown : Shown p s members) (c : Context σ Row) :
    Shown p { s with context := c } (Ascending.put associationsField (.context c) members) := by
  refine ⟨fun f hf => ?_, fun _ => ?_⟩
  · rw [Ascending.lookup_put, if_neg (h.no_context hAssociations f hf)]
    exact hShown.fields f hf
  · rw [Ascending.lookup_put, if_pos rfl]

/-- The relation between a context and the contents of a builder while it is changed. -/
def ContextOf (own : String → Option Datum) (v : Value σ) (s : Contents σ) : Prop :=
  v = .context s.context ∧ s.own = own

theorem agree_entry {e : Entry σ} (hFits : e.Fits t) {own : String → Option Datum} {v : Value σ} {s : Contents σ}
    (hContext : ContextOf own v s) : Agree (ContextOf own) (e.apply ⟨p, d⟩ v) (s.performEntry t e) := by
  obtain ⟨rfl, rfl⟩ := hContext
  cases e with
  | register key row => exact Agree.pure ⟨rfl, rfl⟩
  | method name make =>
    obtain ⟨key, hKey, rfl⟩ := hFits
    obtain ⟨a, ha, hPlanned, -⟩ := h.exists_association hKey
    have hFind : t.foreignKeys.find? (·.singularName = key.singularName) = some key :=
      Factory.find?_of_nodup h.nodup_singularNames hKey
    have hApply := apply_method (d := d) h.wellNamed h.nodup_methods ha make s.context
    rw [hPlanned.method, hPlanned.field] at hApply
    rw [hApply, Contents.performEntry]
    simp only [hFind]
    refine (Agree.refl make).bind fun row _ hRow => ?_
    subst hRow
    refine (Agree.refl _).bind fun context _ hContext => ?_
    subst hContext
    exact Agree.pure ⟨rfl, rfl⟩

theorem agree_operation {o : Operation σ} (hFits : o.Fits t) {builder : Value σ} {s : Contents σ}
    (hHolds : Holds p s builder) :
    Agree (fun builder s => Holds p s builder) (o.apply ⟨p, d⟩ builder) (s.perform t o) := by
  obtain ⟨members, rfl, hShown⟩ := hHolds
  cases o with
  | assign field v => exact Agree.pure ⟨_, rfl, shown_assign h hShown hFits⟩
  | persistWith persister =>
    have hAssociations := hasAssociations h hFits
    rw [apply_persistWith h.wellNamed hAssociations (hShown.context hAssociations), Contents.perform]
    refine (Agree.refl _).bind fun context _ hContext => ?_
    subst hContext
    exact Agree.pure ⟨_, rfl, shown_withContext h hAssociations hShown context⟩
  | associate entries =>
    obtain ⟨hKeys, hEntries⟩ := hFits
    have hAssociations := hasAssociations h hKeys
    rw [apply_associate h.wellNamed hAssociations (hShown.context hAssociations), Contents.perform,
      ← bind_pure (entries.foldlM (fun s e => Contents.performEntry t e s) s)]
    -- The entries change nothing but the context, so that the fields are those from before the block.
    have hFold : Agree (ContextOf s.own) (entries.foldlM (fun v e => e.apply ⟨p, d⟩ v) (.context s.context))
        (entries.foldlM (fun s e => Contents.performEntry t e s) s) :=
      Agree.foldlM (fun e he _ _ => agree_entry h (hEntries e he)) ⟨rfl, rfl⟩
    refine hFold.bind ?_
    rintro _ ⟨own, context⟩ ⟨rfl, rfl⟩
    exact Agree.pure ⟨_, rfl, shown_withContext h hAssociations hShown context⟩
  | configure change => cases hFits
  | configureAll changes => cases hFits

theorem agree_applyAll {operations : List (Operation σ)} (hFits : ∀ o ∈ operations, o.Fits t) {builder : Value σ}
    {s : Contents σ} (hHolds : Holds p s builder) :
    Agree (fun builder s => Holds p s builder) (applyAll ⟨p, d⟩ operations builder) (s.performAll t operations) :=
  Agree.foldlM (fun o ho _ _ => agree_operation h (hFits o ho)) hHolds

/-- Any operations followed by `build` give the row that a builder's contents ask for after the operations. -/
theorem agree_buildRow {operations : List (Operation σ)} (hFits : ∀ o ∈ operations, o.Fits t) {builder : Value σ}
    {s : Contents σ} (hHolds : Holds p s builder) :
    Agree (fun row s => Reads t ⟨p, d⟩ (s.wanted t package) row)
      (applyAll ⟨p, d⟩ operations builder >>= buildRow ⟨p, d⟩) (s.performAll t operations) := by
  rw [← bind_pure (s.performAll t operations)]
  refine (agree_applyAll h hFits hHolds).bind fun builder s hHolds => ?_
  obtain ⟨row, hRow, hReads⟩ := buildRow_eq h hHolds
  rw [hRow]
  exact Agree.pure hReads

end

end RowFactory.Run
