import Mathlib.Data.List.Forall2
import RowFactory.Proofs.Results
import RowFactory.Source.Index

/-! # Markers and declarations

Every marker of a file stands on one item of one module. A scan that succeeds makes a declaration of each marker,
in their order, whose item is of a kind that carries markers, and of no other. It reads the arguments as the check of
a marker does wherever this check accepts them; but the check accepts items of every kind.
-/

namespace RowFactory.Source

open Code.Grammar

structure Marker where
  moduleName : String
  item : Item
  mark : Attribute

mutual

def markers (moduleName : String) : Item → List Marker
  | .mk kind name attributes contents =>
    (attributes.filter (·.isMarker)).map (Marker.mk moduleName (.mk kind name attributes contents)) ++
      markersOfAll (moduleName ++ "::" ++ name) contents

def markersOfAll (moduleName : String) : List Item → List Marker
  | [] => []
  | item :: rest => markers moduleName item ++ markersOfAll moduleName rest

end

namespace Marker

def arguments (m : Marker) : Tokens := m.mark.arguments.getD []

def isCarried (m : Marker) : Bool := m.item.kind.carriesMarkers

def finding (file : String) (m : Marker) : Finding := .ofMarker file m.moduleName m.item.name m.mark

/-- A declaration says what its marker and the item of the marker say. -/
structure Declares (file : String) (m : Marker) (d : Declaration) : Prop where
  item : d.item = m.item.name
  moduleName : d.moduleName = m.moduleName
  file : d.file = file
  table : m.mark.table = .ok d.table

theorem declares_of_finding {file : String} {m : Marker} {d : Declaration} (h : m.finding file = .declaration d) :
    m.Declares file d := by
  rw [finding, Finding.ofMarker] at h
  cases hTable : m.mark.table with
  | ok table =>
    rw [hTable] at h
    cases h
    exact ⟨rfl, rfl, rfl, hTable⟩
  | error fault =>
    rw [hTable] at h
    cases h

end Marker

def Finding.isStruct : Finding → Bool
  | .struct _ _ => true
  | _ => false

theorem filter_ownFindings (file moduleName : String) (kind : ItemKind) (name : String) (attributes : List Attribute)
    (contents : List Item) :
    (ownFindings file moduleName (.mk kind name attributes [])).filter (!·.isStruct) =
      (((attributes.filter (·.isMarker)).map (Marker.mk moduleName (.mk kind name attributes contents))).filter
        (·.isCarried)).map (·.finding file) := by
  have hMarker (a : Attribute) : (Finding.ofMarker file moduleName name a).isStruct = false := by
    rw [Finding.ofMarker]
    cases a.table <;> rfl
  have hStruct : (if kind = .struct then [Finding.struct name moduleName] else []).filter (!·.isStruct) = [] := by
    split <;> rfl
  rw [ownFindings, List.filter_append]
  -- What an item itself says does not depend on its contents, which the markers keep.
  change (if kind = .struct then [Finding.struct name moduleName] else []).filter _ ++
    (if kind.carriesMarkers then (attributes.filter (·.isMarker)).map (.ofMarker file moduleName name)
      else []).filter _ = _
  rw [hStruct, List.nil_append]
  cases hKind : kind.carriesMarkers with
  | false => simp [List.filter_map, Function.comp_def, Marker.isCarried, Item.kind, hKind]
  | true =>
    simp [List.filter_map, Function.comp_def, Marker.isCarried, Marker.finding, Item.kind, Item.name, hKind, hMarker]

mutual

theorem filter_findings (file moduleName : String) (item : Item) :
    (findings file moduleName item).filter (!·.isStruct) =
      ((markers moduleName item).filter (·.isCarried)).map (·.finding file) := by
  obtain ⟨kind, name, attributes, contents⟩ := item
  rw [findings, markers, List.filter_append, List.filter_append, List.map_append,
    filter_ownFindings file moduleName kind name attributes contents, filter_findingsOfAll]

theorem filter_findingsOfAll (file moduleName : String) (items : List Item) :
    (findingsOfAll file moduleName items).filter (!·.isStruct) =
      ((markersOfAll moduleName items).filter (·.isCarried)).map (·.finding file) := by
  match items with
  | [] => rfl
  | item :: rest =>
    rw [findingsOfAll, markersOfAll, List.filter_append, List.filter_append, List.map_append, filter_findings,
      filter_findingsOfAll]

end

theorem Index.declarations_addFindings {file : String} {index changed : Index} {found : List Finding}
    (h : index.addFindings file found = (changed, none)) :
    ∃ declarations, found.filter (!·.isStruct) = declarations.map .declaration ∧
      changed.declarations = index.declarations ++ declarations := by
  induction found generalizing index with
  | nil =>
    cases h
    exact ⟨[], rfl, (List.append_nil _).symm⟩
  | cons first rest ih =>
    cases first with
    | struct name moduleName =>
      have hRest := ih h
      exact hRest
    | faulty item fault => cases h
    | declaration d =>
      obtain ⟨declarations, hRest, hChanged⟩ := ih h
      refine ⟨d :: declarations, congrArg (Finding.declaration d :: ·) hRest, ?_⟩
      rw [hChanged, List.append_assoc]
      rfl

theorem readArguments_of_once {found result : Option String} {fuel : Nat} {tokens : Tokens}
    (h : readArguments true found fuel tokens = .ok result) : readArguments false found fuel tokens = .ok result := by
  induction fuel generalizing found tokens with
  | zero => cases h
  | succ fuel ih =>
    rw [readArguments] at h ⊢
    generalize argumentPath (tokens.length + 1) _ = path at h ⊢
    match path with
    | none => cases h
    | some (name, rest) =>
      dsimp only at h ⊢
      split at h
      · cases h
      · rename_i hName
        rw [if_neg hName]
        split at h
        · cases h
        · rw [Bool.false_and, if_neg Bool.false_ne_true]
          generalize argumentValue rest = value at h ⊢
          match value with
          | none => cases h
          | some (value, []) => exact h
          | some (value, token :: rest) =>
            dsimp only at h ⊢
            generalize symbol "," (token :: rest) = after at h ⊢
            match after with
            | none => cases h
            | some [] => exact h
            | some (token :: rest) => exact ih h

theorem tableOf_of_once {tokens : Tokens} {result : Option String} (h : tableOf true tokens = .ok result) :
    tableOf false tokens = .ok result := by
  rw [tableOf] at h ⊢
  split at h
  · rename_i hEmpty
    rw [if_pos hEmpty]
    exact h
  · rename_i hSome
    rw [if_neg hSome]
    exact readArguments_of_once h

/-- Where the check accepts arguments, the scan reads the same table. -/
theorem table_of_checkArguments {a : Attribute} {table : String}
    (h : checkArguments (a.arguments.getD []) = .ok table) : a.table = .ok table := by
  rw [checkArguments] at h
  cases hArguments : a.arguments with
  | none =>
    rw [hArguments] at h
    cases h
  | some tokens =>
    rw [hArguments, Option.getD_some] at h
    rw [Attribute.table, hArguments]
    cases hOnce : tableOf true tokens with
    | error fault =>
      rw [hOnce] at h
      cases fault <;> cases h
    | ok found =>
      rw [hOnce] at h
      cases found with
      | none => cases h
      | some named =>
        dsimp only at h ⊢
        split at h
        · cases h
        · rename_i hBlank
          cases h
          have hNonempty : ¬ table.isEmpty := by
            intro hEmpty
            rw [String.isEmpty_iff.mp hEmpty] at hBlank
            exact hBlank rfl
          rw [tableOf_of_once hOnce]
          exact if_neg hNonempty

/-- A scan that succeeds adds one declaration for each marker whose item is of a kind that it looks at, in the order
of the markers, and none for other markers. Wherever the check of markers accepts such a marker, whatever its item,
the declaration names the table that the check has read. -/
theorem Index.declarations_addSource {index changed : Index} {moduleName file source : String} {items : List Item}
    (hRead : readItems source = some items) (hAdd : index.addSource moduleName file source = (changed, none)) :
    ∃ declarations, changed.declarations = index.declarations ++ declarations ∧
      List.Forall₂ (fun m d => m.Declares file d ∧ ∀ tokens checked, checkMarker m.arguments tokens = .ok checked →
          checkArguments m.arguments = .ok d.table)
        ((markersOfAll moduleName items).filter (·.isCarried)) declarations := by
  rw [addSource, hRead] at hAdd
  obtain ⟨declarations, hFound, hChanged⟩ := declarations_addFindings hAdd
  rw [filter_findingsOfAll] at hFound
  have hFindings : List.Forall₂ (fun m d => m.finding file = .declaration d)
      ((markersOfAll moduleName items).filter (·.isCarried)) declarations := by
    rw [← List.forall₂_map_left_iff (f := Marker.finding file) (R := fun found d => found = .declaration d), hFound,
      List.forall₂_map_left_iff]
    exact List.forall₂_refl _
  refine ⟨declarations, hChanged, hFindings.imp fun m d hFinding => ?_⟩
  have hDeclares := Marker.declares_of_finding hFinding
  refine ⟨hDeclares, fun tokens checked hCheck => ?_⟩
  obtain ⟨table, hTable, _⟩ := Results.bind_eq_ok.mp hCheck
  have hSame := table_of_checkArguments hTable
  rw [hDeclares.table] at hSame
  rw [hTable, Except.ok.inj hSame]

def staticItem : String := "pub static USER_FACTORY: u8 = 0;"

def markedStatic : String := "#[factory(table = \"users\")]\n" ++ staticItem

/-- The check accepts the marker of a static item, and the scan has no error, but it finds no declaration. -/
theorem marked_static_not_declared :
    ∃ items m tokens checked changed, readItems markedStatic = some items ∧ m ∈ markersOfAll "crate" items ∧
      Code.lex staticItem = some tokens ∧ checkMarker m.arguments tokens = .ok checked ∧
      ({} : Index).addSource "crate" "lib.rs" markedStatic = (changed, none) ∧ changed.declarations = [] := by
  let arguments : Tokens := [.word "table", .mark '=' false, .literal (.text "users") "\"users\""]
  obtain ⟨items, hRead⟩ : ∃ items, readItems markedStatic = some items :=
    Option.isSome_iff_exists.mp (by decide +kernel)
  obtain ⟨tokens, hItem⟩ : ∃ tokens, Code.lex staticItem = some tokens :=
    Option.isSome_iff_exists.mp (by decide +kernel)
  have hMarkers : (readItems markedStatic).map (fun items =>
      (markersOfAll "crate" items).map fun m => (m.isCarried, m.arguments)) = some [(false, arguments)] := by
    decide +kernel
  rw [hRead, Option.map_some, Option.some.injEq, List.map_eq_singleton_iff] at hMarkers
  obtain ⟨m, hOnly, hMarker⟩ := hMarkers
  obtain ⟨hCarried, hArguments⟩ := Prod.mk.inj hMarker
  obtain ⟨checked, hCheck⟩ : ∃ checked, checkMarker arguments tokens = .ok checked := by
    have hAccepted : (Code.lex staticItem).map (fun tokens => (checkMarker arguments tokens).toOption.isSome) =
        some true := by
      decide +kernel
    rw [hItem, Option.map_some, Option.some.injEq] at hAccepted
    exact Results.exists_eq_ok hAccepted
  obtain ⟨changed, hAdd⟩ : ∃ changed, ({} : Index).addSource "crate" "lib.rs" markedStatic = (changed, none) :=
    ⟨_, Prod.ext rfl (by decide +kernel)⟩
  obtain ⟨declarations, hChanged, hDeclared⟩ := Index.declarations_addSource hRead hAdd
  rw [hOnly, List.filter_cons_of_neg (by simp [hCarried]), List.filter_nil, List.forall₂_nil_left_iff] at hDeclared
  refine ⟨items, m, tokens, checked, changed, hRead, ?_, hItem, ?_, hAdd, ?_⟩
  · rw [hOnly]
    exact List.mem_singleton_self m
  · rw [hArguments]
    exact hCheck
  · rw [hChanged, hDeclared]
    rfl

end RowFactory.Source
