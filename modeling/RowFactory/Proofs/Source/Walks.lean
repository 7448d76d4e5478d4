import RowFactory.Proofs.Ascending
import RowFactory.Proofs.Source.Markers
import RowFactory.Proofs.Source.Nesting

/-! # Walks through source files

A walk through a file comes to every item, in the order of the text, and after a module that is written in place it
comes to the items in it before it goes on. Adding a file to an index follows the walk: each struct gets its module
and each marker makes a declaration, up to the first marker that cannot be read.
-/

namespace RowFactory.Source

structure Visit where
  moduleName : String
  item : Item

mutual

/-- The walk through an item: the item itself and, if it is a module that is written in place, what is in it. -/
def visits (moduleName : String) : Item → List Visit
  | .mk kind name attributes contents =>
    ⟨moduleName, .mk kind name attributes contents⟩ ::
      if kind = .module then visitsOfAll (moduleName ++ "::" ++ name) contents else []

def visitsOfAll (moduleName : String) : List Item → List Visit
  | [] => []
  | item :: rest => visits moduleName item ++ visitsOfAll moduleName rest

end

namespace Visit

def markers (v : Visit) : List Marker :=
  if v.item.kind.carriesMarkers then (v.item.attributes.filter (·.isMarker)).map (.mk v.moduleName v.item) else []

def isStruct (v : Visit) : Bool := v.item.kind = .struct

def findings (file : String) (v : Visit) : List Finding := ownFindings file v.moduleName v.item

theorem item_of_mem_markers {v : Visit} {m : Marker} (h : m ∈ v.markers) : m.item = v.item := by
  rw [markers] at h
  split at h
  · obtain ⟨_, _, rfl⟩ := List.mem_map.mp h
    rfl
  · cases h

end Visit

def structModules (name : String) (walk : List Visit) : List String :=
  (walk.filter fun v => v.isStruct && v.item.name = name).map (·.moduleName)

mutual

theorem findings_eq (file moduleName : String) {item : Item} (h : WellNested item) :
    findings file moduleName item = (visits moduleName item).flatMap (·.findings file) := by
  obtain ⟨kind, name, attributes, contents⟩ := item
  rw [findings, visits, List.flatMap_cons]
  refine congrArg (ownFindings file moduleName (.mk kind name attributes []) ++ ·) ?_
  cases h with
  | module h => exact findingsOfAll_eq file _ h
  | plain =>
    rw [findingsOfAll]
    split <;> rfl

theorem findingsOfAll_eq (file moduleName : String) {items : List Item} (h : ∀ i ∈ items, WellNested i) :
    findingsOfAll file moduleName items = (visitsOfAll moduleName items).flatMap (·.findings file) := by
  match items with
  | [] => rfl
  | item :: rest =>
    obtain ⟨hItem, hRest⟩ := List.forall_mem_cons.mp h
    rw [findingsOfAll, visitsOfAll, List.flatMap_append, findings_eq file moduleName hItem,
      findingsOfAll_eq file moduleName hRest]

end

namespace Index

/-- What has been added to an index: a declaration for each marker, in their order, and the modules of structs in the
order of the walk. -/
structure Adds (file : String) (walk : List Visit) (marked : List Marker) (index changed : Index) : Prop where
  declarations : ∃ added, changed.declarations = index.declarations ++ added ∧
    List.Forall₂ (Marker.Declares file) marked added
  modules : ∀ name, changed.modulesOf name = index.modulesOf name ++ structModules name walk

/-- How a walk ends: after all its items, or at the first marker that cannot be read. The item of this marker has been
come to, and its markers before this one have been read. -/
inductive Follows (file : String) (walk : List Visit) (index : Index) : Index × Option Error → Prop
  | finished {changed : Index} (h : Adds file walk (walk.flatMap (·.markers)) index changed) :
      Follows file walk index (changed, none)
  | stopped {changed : Index} {before after : List Visit} {v : Visit} {read unread : List Marker} {faulty : Marker}
      {fault : MarkerFault} (hWalk : walk = before ++ v :: after) (hMarkers : v.markers = read ++ faulty :: unread)
      (hFault : faulty.mark.table = .error fault)
      (h : Adds file (before ++ [v]) (before.flatMap (·.markers) ++ read) index changed) :
      Follows file walk index (changed, some (.sourceParse file (.marker v.item.name fault)))

section Steps

variable {file : String} {index middle changed : Index}

theorem Adds.refl (file : String) (index : Index) : Adds file [] [] index index :=
  ⟨⟨[], (List.append_nil _).symm, .nil⟩, fun _ => (List.append_nil _).symm⟩

theorem Adds.append {walk next : List Visit} {marked more : List Marker} (h : Adds file walk marked index middle)
    (hNext : Adds file next more middle changed) : Adds file (walk ++ next) (marked ++ more) index changed := by
  obtain ⟨added, hAdded, hMarked⟩ := h.declarations
  obtain ⟨others, hOthers, hMore⟩ := hNext.declarations
  refine ⟨⟨added ++ others, ?_, List.rel_append hMarked hMore⟩, fun name => ?_⟩
  · rw [hOthers, hAdded, List.append_assoc]
  · rw [hNext.modules, h.modules, structModules, structModules, structModules, List.filter_append, List.map_append,
      List.append_assoc]

theorem addFindings_append (first second : List Finding) :
    index.addFindings file (first ++ second) =
      match index.addFindings file first with
      | (changed, none) => changed.addFindings file second
      | (changed, some error) => (changed, some error) := by
  induction first generalizing index with
  | nil => rfl
  | cons found rest ih =>
    cases found with
    | struct name moduleName => exact ih
    | declaration d => exact ih
    | faulty item fault => rfl

theorem modulesOf_addStruct (index : Index) (name moduleName other : String) :
    (index.addStruct name moduleName).modulesOf other =
      index.modulesOf other ++ if name = other then [moduleName] else [] := by
  rw [addStruct, modulesOf, Ascending.lookup_put]
  by_cases h : other = name
  · simp [h]
  · simp [h, Ne.symm h, modulesOf]

theorem addFindings_markers (file : String) (index : Index) (markers : List Marker) :
    (∃ changed, index.addFindings file (markers.map (·.finding file)) = (changed, none) ∧
      Adds file [] markers index changed) ∨
    ∃ changed read faulty unread fault,
      index.addFindings file (markers.map (·.finding file)) =
        (changed, some (.sourceParse file (.marker faulty.item.name fault))) ∧
      markers = read ++ faulty :: unread ∧ faulty.mark.table = .error fault ∧ Adds file [] read index changed := by
  induction markers generalizing index with
  | nil => exact .inl ⟨index, rfl, Adds.refl file index⟩
  | cons m rest ih =>
    cases hTable : m.mark.table with
    | error fault =>
      refine .inr ⟨index, [], m, rest, fault, ?_, rfl, hTable, Adds.refl file index⟩
      rw [List.map_cons, Marker.finding, Finding.ofMarker, hTable]
      rfl
    | ok table =>
      let d : Declaration := ⟨table, m.item.name, m.moduleName, file⟩
      let next : Index := { index with declarations := index.declarations ++ [d] }
      have hFirst : Adds file [] [m] index next :=
        ⟨⟨[d], rfl, .cons ⟨rfl, rfl, rfl, hTable⟩ .nil⟩, fun _ => (List.append_nil _).symm⟩
      have hRest : index.addFindings file ((m :: rest).map (·.finding file)) =
          next.addFindings file (rest.map (·.finding file)) := by
        rw [List.map_cons, Marker.finding, Finding.ofMarker, hTable]
        rfl
      rw [hRest]
      rcases ih next with ⟨changed, hAll, hAdds⟩ | ⟨changed, read, faulty, unread, fault, hStop, rfl, hFault, hAdds⟩
      · exact .inl ⟨changed, hAll, hFirst.append hAdds⟩
      · exact .inr ⟨changed, m :: read, faulty, unread, fault, hStop, rfl, hFault, hFirst.append hAdds⟩

theorem findings_visit (file : String) (v : Visit) :
    v.findings file =
      (if v.isStruct then [.struct v.item.name v.moduleName] else []) ++ v.markers.map (·.finding file) := by
  have hMarkers : (if v.item.kind.carriesMarkers then
      (v.item.attributes.filter (·.isMarker)).map (.ofMarker file v.moduleName v.item.name) else []) =
      v.markers.map (·.finding file) := by
    rw [Visit.markers]
    split
    · rw [List.map_map]
      rfl
    · rfl
  rw [Visit.findings, ownFindings, hMarkers, Visit.isStruct]
  simp only [decide_eq_true_eq]

theorem addFindings_visit (file : String) (index : Index) (v : Visit) :
    (∃ changed, index.addFindings file (v.findings file) = (changed, none) ∧ Adds file [v] v.markers index changed) ∨
    ∃ changed read faulty unread fault,
      index.addFindings file (v.findings file) =
        (changed, some (.sourceParse file (.marker v.item.name fault))) ∧
      v.markers = read ++ faulty :: unread ∧ faulty.mark.table = .error fault ∧ Adds file [v] read index changed := by
  obtain ⟨next, hNext, hComes⟩ : ∃ next : Index,
      index.addFindings file (v.findings file) = next.addFindings file (v.markers.map (·.finding file)) ∧
      Adds file [v] [] index next := by
    rw [findings_visit]
    cases hStruct : v.isStruct with
    | false =>
      refine ⟨index, rfl, ⟨[], (List.append_nil _).symm, .nil⟩, fun name => ?_⟩
      simp [structModules, hStruct]
    | true =>
      refine ⟨index.addStruct v.item.name v.moduleName, rfl, ⟨[], (List.append_nil _).symm, .nil⟩, fun name => ?_⟩
      rw [modulesOf_addStruct]
      by_cases hName : v.item.name = name <;> simp [structModules, hStruct, hName]
  rw [hNext]
  rcases addFindings_markers file next v.markers with
    ⟨changed, hAll, hAdds⟩ | ⟨changed, read, faulty, unread, fault, hStop, hMarkers, hFault, hAdds⟩
  · exact .inl ⟨changed, hAll, hComes.append hAdds⟩
  · have hItem : faulty.item = v.item :=
      Visit.item_of_mem_markers (hMarkers ▸ List.mem_append_right read List.mem_cons_self)
    rw [hItem] at hStop
    exact .inr ⟨changed, read, faulty, unread, fault, hStop, hMarkers, hFault, hComes.append hAdds⟩

end Steps

theorem follows_findings (file : String) (index : Index) (walk : List Visit) :
    Follows file walk index (index.addFindings file (walk.flatMap (·.findings file))) := by
  induction walk generalizing index with
  | nil => exact .finished (Adds.refl file index)
  | cons v rest ih =>
    rw [List.flatMap_cons, addFindings_append]
    rcases addFindings_visit file index v with
      ⟨next, hAll, hFirst⟩ | ⟨changed, read, faulty, unread, fault, hStop, hMarkers, hFault, hFirst⟩
    · rw [hAll]
      dsimp only
      generalize hResult : next.addFindings file (rest.flatMap (·.findings file)) = result
      have hRest := ih next
      rw [hResult] at hRest
      cases hRest with
      | finished h => exact .finished (hFirst.append h)
      | @stopped _ before after w _ _ _ _ hWalk hMarkers hFault h =>
        have hBefore : v :: rest = (v :: before) ++ w :: after := congrArg (v :: ·) hWalk
        refine .stopped hBefore hMarkers hFault ?_
        rw [List.flatMap_cons, List.append_assoc]
        exact hFirst.append h
    · rw [hStop]
      have hBefore : v :: rest = [] ++ v :: rest := rfl
      exact .stopped hBefore hMarkers hFault hFirst

theorem Follows.eq_none_iff {file : String} {walk : List Visit} {index : Index} {result : Index × Option Error}
    (h : Follows file walk index result) :
    result.2 = none ↔ ∀ m ∈ walk.flatMap (·.markers), ∃ table, m.mark.table = .ok table := by
  cases h with
  | finished h =>
    refine iff_of_true rfl fun m hm => ?_
    obtain ⟨added, _, hMarked⟩ := h.declarations
    obtain ⟨d, _, hDeclares⟩ := Results.exists_of_mem_left hMarked hm
    exact ⟨d.table, hDeclares.table⟩
  | @stopped _ before after v read unread faulty _ hWalk hMarkers hFault _ =>
    refine iff_of_false (fun h => nomatch h) fun hAll => ?_
    have hFaulty : faulty ∈ v.markers := hMarkers ▸ List.mem_append_right read List.mem_cons_self
    have hMem : faulty ∈ walk.flatMap (·.markers) :=
      List.mem_flatMap.mpr ⟨v, hWalk ▸ List.mem_append_right before List.mem_cons_self, hFaulty⟩
    obtain ⟨table, hTable⟩ := hAll faulty hMem
    rw [hFault] at hTable
    cases hTable

/-- Adding a file follows the walk through its items. Without an error each marker of an item that may carry one makes a
declaration, in the order of the walk, and each struct gets its module after those that it had. There is an error just
if some of these markers cannot be read; it names the first one, and the index has what the walk had added by then,
with the struct that carries the marker if it is one. -/
theorem addSource_follows_walk {index : Index} {moduleName file source : String} {items : List Item}
    (hRead : readItems source = some items) :
    let walk := visitsOfAll moduleName items
    let result := index.addSource moduleName file source
    Follows file walk index result ∧
      (result.2 = none ↔ ∀ m ∈ walk.flatMap (·.markers), ∃ table, m.mark.table = .ok table) := by
  intro walk result
  have hFollows : Follows file walk index result := by
    have hFindings := findingsOfAll_eq file moduleName (wellNested_of_readItems hRead)
    have hResult : result = index.addFindings file (walk.flatMap (·.findings file)) := by
      rw [← hFindings, show result = index.addSource moduleName file source from rfl, addSource, hRead]
    rw [hResult]
    exact follows_findings file index walk
  exact ⟨hFollows, hFollows.eq_none_iff⟩

def nestedMarkers : String :=
  "#[factory(table = \"users\")] mod a \x7b #[factory(table = \"posts\")] #[factory] struct P; \x7d struct Q;"

/-- The walk ends inside of the module, and nothing after it is added. -/
theorem nestedMarkers_follows_walk :
    ∃ items changed error, readItems nestedMarkers = some items ∧
      ({} : Index).addSource "crate" "lib.rs" nestedMarkers = (changed, some error) ∧
      Follows "lib.rs" (visitsOfAll "crate" items) {} (changed, some error) ∧
      error = .sourceParse "lib.rs" (.marker "P" .malformed) ∧
      changed = ⟨[⟨"users", "a", "crate", "lib.rs"⟩, ⟨"posts", "P", "crate::a", "lib.rs"⟩], [("P", ["crate::a"])]⟩ := by
  let changed : Index :=
    ⟨[⟨"users", "a", "crate", "lib.rs"⟩, ⟨"posts", "P", "crate::a", "lib.rs"⟩], [("P", ["crate::a"])]⟩
  have hFound : (readItems nestedMarkers).map
      (fun items => ({} : Index).addFindings "lib.rs" (findingsOfAll "lib.rs" "crate" items)) =
        some (changed, some (.sourceParse "lib.rs" (.marker "P" .malformed))) := by
    decide +kernel
  obtain ⟨items, hRead, hResult⟩ := Option.map_eq_some_iff.mp hFound
  have hAdd : ({} : Index).addSource "crate" "lib.rs" nestedMarkers =
      (changed, some (.sourceParse "lib.rs" (.marker "P" .malformed))) := by
    rw [addSource, hRead]
    exact hResult
  have hFollows : Follows "lib.rs" (visitsOfAll "crate" items) {}
      (({} : Index).addSource "crate" "lib.rs" nestedMarkers) := (addSource_follows_walk hRead).1
  rw [hAdd] at hFollows
  exact ⟨items, changed, _, hRead, hAdd, hFollows, rfl, rfl⟩

end Index

end RowFactory.Source
