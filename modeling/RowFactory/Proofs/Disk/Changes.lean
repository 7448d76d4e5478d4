import RowFactory.Proofs.Disk.Names
import RowFactory.Proofs.Disk.Trees

/-! # Sound trees and what changes do to them

In a tree that a disk can have, whatever stands somewhere stands in a directory. Each change keeps that, and
its effect on every place can be told exactly.
-/

namespace RowFactory.Disk

namespace Path

instance (text : String) : Decidable (IsName text) :=
  decidable_of_iff ('/' ∉ text.toList ∧ text.toList ∉ [[], ['.'], ['.', '.']])
    ⟨fun h => ⟨h.1, h.2⟩, fun h => ⟨h.noSlash, h.noPoints⟩⟩

theorem isName_of_component? {first : Bool} {piece : List Char} {name : String} (hSlash : '/' ∉ piece)
    (h : component? first piece = some (.name name)) : IsName name := by
  have hPoints : piece ∉ [[], ['.'], ['.', '.']] := by
    intro hMem
    simp only [List.mem_cons, List.not_mem_nil, or_false] at hMem
    rcases hMem with rfl | rfl | rfl <;> cases first <;> simp [component?] at h
  rw [component?_of_noPoints hPoints first] at h
  cases h
  exact ⟨by rwa [String.toList_ofList], by rwa [String.toList_ofList]⟩

theorem isName_of_mem_components {path name : String} (h : .name name ∈ components path) : IsName name := by
  have hPieces : ∀ p ∈ pieces [] path.toList, '/' ∉ p := fun p hp => no_slash_of_mem_pieces List.not_mem_nil hp
  rw [components_eq, List.mem_append] at h
  rcases h with h | h
  · split at h <;> simp at h
  · cases hList : pieces [] path.toList with
    | nil => exact absurd hList (pieces_ne_nil [] path.toList)
    | cons first rest =>
      rw [hList] at h hPieces
      rw [componentsOf, List.mem_append, Option.mem_toList, List.mem_filterMap] at h
      rcases h with h | ⟨piece, hPiece, h⟩
      · exact isName_of_component? (hPieces first List.mem_cons_self) h
      · exact isName_of_component? (hPieces piece (List.mem_cons_of_mem first hPiece)) h

end Path

theorem mem_putNode {place : Place} {node : Node} {nodes : List (Place × Node)} {entry : Place × Node}
    (h : entry ∈ putNode place node nodes) : entry = (place, node) ∨ entry ∈ nodes := by
  induction nodes with
  | nil => exact .inl (List.mem_singleton.mp h)
  | cons first rest ih =>
    rw [putNode] at h
    split at h
    · exact List.mem_cons.mp h
    · split at h
      · exact (List.mem_cons.mp h).imp_right (List.mem_cons_of_mem first)
      · rcases List.mem_cons.mp h with rfl | h
        · exact .inr List.mem_cons_self
        · exact (ih h).imp_right (List.mem_cons_of_mem first)

theorem ascending_putNode {nodes : List (Place × Node)} (h : nodes.Pairwise fun a b => a.1 < b.1) (place : Place)
    (node : Node) : (putNode place node nodes).Pairwise fun a b => a.1 < b.1 := by
  induction nodes with
  | nil => exact List.pairwise_singleton _ _
  | cons first rest ih =>
    obtain ⟨hFirst, hRest⟩ := List.pairwise_cons.mp h
    rw [putNode]
    split
    · rename_i hBefore
      refine List.pairwise_cons.mpr ⟨fun entry hEntry => ?_, h⟩
      rcases List.mem_cons.mp hEntry with rfl | hEntry
      · exact hBefore
      · exact lt_trans hBefore (hFirst entry hEntry)
    · split
      · rename_i hSame
        subst hSame
        exact List.pairwise_cons.mpr ⟨hFirst, hRest⟩
      · rename_i hBefore hSame
        refine List.pairwise_cons.mpr ⟨fun entry hEntry => ?_, ih hRest⟩
        rcases mem_putNode hEntry with rfl | hEntry
        · exact lt_of_le_of_ne (not_lt.mp hBefore) (Ne.symm hSame)
        · exact hFirst entry hEntry

theorem lookup_filter (keep : Place → Bool) (nodes : List (Place × Node)) (p : Place) :
    (nodes.filter fun entry => keep entry.1).lookup p = if keep p then nodes.lookup p else none := by
  induction nodes with
  | nil => simp
  | cons first rest ih =>
    obtain ⟨place, n⟩ := first
    by_cases hKeep : keep place
    · rw [List.filter_cons, if_pos hKeep, Ascending.lookup_cons, Ascending.lookup_cons, ih]
      by_cases hSame : p = place
      · simp [hSame, hKeep]
      · simp [hSame]
    · rw [List.filter_cons, if_neg hKeep, ih, Ascending.lookup_cons]
      by_cases hSame : p = place
      · simp [hSame, hKeep]
      · simp [hSame]

namespace Tree

/-- A tree as a disk can have it. -/
structure Sound (t : Tree) : Prop where
  ascending : t.nodes.Pairwise fun a b => a.1 < b.1
  named : ∀ entry ∈ t.nodes, entry.1 ≠ [] ∧ ∀ name ∈ entry.1, Path.IsName name ∧ isFileName name
  parents : ∀ entry ∈ t.nodes, t.node? entry.1.dropLast = some .directory
  home : t.node? t.home = some .directory

instance (t : Tree) : Decidable t.Sound :=
  decidable_of_iff
    ((t.nodes.Pairwise fun a b => a.1 < b.1) ∧
      (∀ entry ∈ t.nodes, entry.1 ≠ [] ∧ ∀ name ∈ entry.1, Path.IsName name ∧ isFileName name) ∧
      (∀ entry ∈ t.nodes, t.node? entry.1.dropLast = some .directory) ∧ t.node? t.home = some .directory)
    ⟨fun h => ⟨h.1, h.2.1, h.2.2.1, h.2.2.2⟩, fun h => ⟨h.ascending, h.named, h.parents, h.home⟩⟩

theorem node?_top (t : Tree) : t.node? [] = some .directory := rfl

section Sound

variable {t : Tree} (h : t.Sound)

include h

theorem Sound.node?_eq_some_iff {p : Place} (hp : p ≠ []) {node : Node} :
    t.node? p = some node ↔ (p, node) ∈ t.nodes := by
  rw [node?, if_neg hp, Ascending.lookup_eq_some_iff h.ascending]

theorem Sound.directory_of_child {place : Place} {name : String} {node : Node}
    (hNode : t.node? (place ++ [name]) = some node) : t.node? place = some .directory := by
  have hMem := (h.node?_eq_some_iff (by simp)).mp hNode
  have hParent := h.parents _ hMem
  rwa [List.dropLast_concat] at hParent

theorem Sound.directory_of_below {place rest : Place} (hRest : rest ≠ []) {node : Node}
    (hNode : t.node? (place ++ rest) = some node) : t.node? place = some .directory := by
  induction rest using List.reverseRecOn generalizing node with
  | nil => exact absurd rfl hRest
  | append_singleton names name ih =>
    rw [← List.append_assoc] at hNode
    have hParent := h.directory_of_child hNode
    cases names with
    | nil => rwa [List.append_nil] at hParent
    | cons first others => exact ih (List.cons_ne_nil first others) hParent

end Sound

/-- The same nodes are in the same places, apart from directories that were added. -/
structure Extends (t changed : Tree) : Prop where
  home : changed.home = t.home
  node : ∀ p, changed.node? p = t.node? p ∨ (t.node? p = none ∧ changed.node? p = some .directory)

theorem Extends.refl (t : Tree) : Extends t t := ⟨rfl, fun _ => .inl rfl⟩

theorem Extends.trans {t changed later : Tree} (h : Extends t changed) (hLater : Extends changed later) :
    Extends t later where
  home := hLater.home.trans h.home
  node p := by
    rcases h.node p with hNode | ⟨hNone, hNode⟩
    · rw [← hNode]
      exact hLater.node p
    · rcases hLater.node p with hSame | ⟨hLaterNone, _⟩
      · exact .inr ⟨hNone, hSame.trans hNode⟩
      · rw [hNode] at hLaterNone
        cases hLaterNone

theorem Sound.put {t : Tree} (h : t.Sound) {place : Place} (hPlace : t.node? place = some .directory) {name : String}
    (hName : Path.IsName name ∧ isFileName name) {node : Node}
    (hNode : t.node? (place ++ [name]) = some .directory → node = .directory) :
    (t.put (place ++ [name]) node).Sound := by
  have hTop : place ++ [name] ≠ [] := by simp
  have hDirectory : ∀ p, t.node? p = some .directory → (t.put (place ++ [name]) node).node? p = some .directory := by
    intro p hp
    rw [node?_put hTop]
    split
    · rename_i hSame
      rw [hNode (hSame ▸ hp)]
    · exact hp
  constructor
  case ascending => exact ascending_putNode h.ascending _ _
  case named =>
    intro entry hEntry
    rcases mem_putNode hEntry with rfl | hEntry
    · refine ⟨hTop, fun other hOther => ?_⟩
      rcases List.mem_append.mp hOther with hOther | hOther
      · by_cases hRoot : place = []
        · rw [hRoot] at hOther
          cases hOther
        · exact (h.named _ ((h.node?_eq_some_iff hRoot).mp hPlace)).2 other hOther
      · rw [List.mem_singleton.mp hOther]
        exact hName
    · exact h.named entry hEntry
  case parents =>
    intro entry hEntry
    apply hDirectory
    rcases mem_putNode hEntry with rfl | hEntry
    · rw [List.dropLast_concat]
      exact hPlace
    · exact h.parents entry hEntry
  case home => exact hDirectory _ h.home

theorem Sound.directory_dropLast {t : Tree} (h : t.Sound) {place : Place} (hPlace : t.node? place = some .directory) :
    t.node? place.dropLast = some .directory := by
  rcases place.eq_nil_or_concat' with rfl | ⟨above, name, rfl⟩
  · rfl
  · rw [List.dropLast_concat]
    exact h.directory_of_child hPlace

/-- Where a step leads from a directory: to another directory, or to a name in this one. -/
theorem Sound.step_cases {t : Tree} (h : t.Sound) {place : Place} (hPlace : t.node? place = some .directory)
    {c : Component} (hFile : isFileName c.text) (hName : ∀ name, c = .name name → Path.IsName name) :
    t.node? (step place c) = some .directory ∨
      ∃ name, step place c = place ++ [name] ∧ Path.IsName name ∧ isFileName name := by
  cases c with
  | root => exact .inl rfl
  | current => exact .inl hPlace
  | parent => exact .inl (h.directory_dropLast hPlace)
  | name name => exact .inr ⟨name, rfl, hName name rfl, hFile⟩

theorem Sound.makeWay {t : Tree} (h : t.Sound) {place : Place} {path : List Component}
    (hNames : ∀ name, .name name ∈ path → Path.IsName name) :
    (t.makeWay place path).1.Sound ∧ Extends t (t.makeWay place path).1 := by
  induction path generalizing t place with
  | nil => exact ⟨h, .refl t⟩
  | cons c rest ih =>
    have hRest : ∀ name, .name name ∈ rest → Path.IsName name := fun name hName =>
      hNames name (List.mem_cons_of_mem c hName)
    rw [Tree.makeWay]
    split
    · rename_i hStep
      have hCases := h.step_cases hStep.1 hStep.2 fun name hc => hNames name (hc ▸ List.mem_cons_self)
      simp only
      split
      · rename_i hMissing
        rcases hCases with hThere | ⟨name, hPlace, hName⟩
        · rw [hThere] at hMissing
          cases hMissing
        · rw [hPlace] at hMissing ⊢
          have hPut := @Sound.put t h place hStep.1 name hName .directory fun _ => rfl
          have hAdded : Extends t (t.put (place ++ [name]) .directory) :=
            { home := rfl
              node := fun p => by
                rw [node?_put (by simp)]
                split
                · rename_i hSame
                  exact .inr ⟨hSame ▸ hMissing, rfl⟩
                · exact .inl rfl }
          obtain ⟨hSound, hExtends⟩ := ih hPut hRest
          exact ⟨hSound, hAdded.trans hExtends⟩
      · exact ih h hRest
    · exact ⟨h, .refl t⟩

theorem Sound.createDirectories {t : Tree} (h : t.Sound) (path : String) :
    (t.createDirectories path).1.Sound ∧ Extends t (t.createDirectories path).1 :=
  h.makeWay fun _ hName => Path.isName_of_mem_components hName

theorem Sound.follow_cases {t : Tree} (h : t.Sound) {place target : Place} {path : List Component}
    (hPlace : t.node? place = some .directory ∨
      ∃ above name, place = above ++ [name] ∧ t.node? above = some .directory ∧ Path.IsName name ∧ isFileName name)
    (hNames : ∀ name, .name name ∈ path → Path.IsName name) (hFollow : t.follow place path = some target) :
    t.node? target = some .directory ∨
      ∃ above name, target = above ++ [name] ∧ t.node? above = some .directory ∧ Path.IsName name ∧
        isFileName name := by
  induction path generalizing place with
  | nil =>
    cases hFollow
    exact hPlace
  | cons c rest ih =>
    rw [follow] at hFollow
    split at hFollow
    · rename_i hStep
      refine ih ?_ (fun name hName => hNames name (List.mem_cons_of_mem c hName)) hFollow
      have hCases := h.step_cases hStep.1 hStep.2 fun name hc => hNames name (hc ▸ List.mem_cons_self)
      refine hCases.imp_right ?_
      rintro ⟨name, hTarget, hName⟩
      exact ⟨place, name, hTarget, hStep.1, hName⟩
    · cases hFollow

theorem Sound.write {t changed : Tree} (h : t.Sound) {path : String} {content : Content}
    (hWrite : t.write path content = .ok changed) :
    changed.Sound ∧ changed.home = t.home ∧
      ∀ p, changed.node? p = if p = placeOf t.home path then some (.file content) else t.node? p := by
  rw [Tree.write] at hWrite
  cases hLocate : t.locate path with
  | none =>
    rw [hLocate] at hWrite
    cases hWrite
  | some place =>
    rw [hLocate] at hWrite
    simp only at hWrite
    split at hWrite
    · cases hWrite
    · rename_i hFree
      obtain rfl := Except.ok.inj hWrite
      obtain ⟨hNode, _⟩ := not_or.mp hFree
      obtain ⟨_, hFollow⟩ := locate_eq_some_iff.mp hLocate
      rcases h.follow_cases (.inl h.home) (fun _ hName => Path.isName_of_mem_components hName) hFollow with
        hDirectory | ⟨above, name, hPlace, hAbove, hName⟩
      · exact absurd hDirectory hNode
      · rw [← locate_eq_placeOf hLocate]
        subst hPlace
        refine ⟨h.put hAbove hName fun hDirectory => absurd hDirectory hNode, rfl, fun p => ?_⟩
        rw [node?_put (by simp)]

/-- There is nothing below a file, so that its place is the only one that becomes empty. -/
theorem Sound.node?_remove {t : Tree} (h : t.Sound) {place : Place} {content : Content}
    (hFile : t.node? place = some (.file content)) (p : Place) :
    (t.remove place).node? p = if p = place then none else t.node? p := by
  by_cases hp : p = []
  · subst hp
    have hTop : [] ≠ place := by
      rintro rfl
      cases hFile
    rw [node?_top, if_neg hTop, node?_top]
  · have hLookup := lookup_filter (fun p => !place.isPrefixOf p) t.nodes p
    rw [node?, if_neg hp, node?, if_neg hp]
    refine hLookup.trans ?_
    by_cases hPrefix : place <+: p
    · obtain ⟨rest, rfl⟩ := hPrefix
      rw [if_neg (by simp)]
      by_cases hRest : rest = []
      · rw [if_pos (by simp [hRest])]
      · rw [if_neg (by simpa using hRest), eq_comm, Option.eq_none_iff_forall_ne_some]
        intro node hSome
        have hBelow : t.node? (place ++ rest) = some node := by rw [node?, if_neg hp, hSome]
        rw [h.directory_of_below hRest hBelow] at hFile
        cases hFile
    · have hKept : (!place.isPrefixOf p) = true := by
        rw [Bool.not_eq_true', Bool.eq_false_iff, ne_eq, List.isPrefixOf_iff_prefix]
        exact hPrefix
      rw [if_pos hKept, if_neg]
      rintro rfl
      exact hPrefix (List.prefix_refl p)

theorem Sound.remove {t : Tree} (h : t.Sound) {place : Place} {content : Content}
    (hFile : t.node? place = some (.file content)) :
    (t.remove place).Sound ∧ ∀ p, (t.remove place).node? p = if p = place then none else t.node? p := by
  have hDirectory : ∀ p, t.node? p = some .directory → (t.remove place).node? p = some .directory := by
    intro p hp
    rw [h.node?_remove hFile, if_neg, hp]
    rintro rfl
    rw [hFile] at hp
    cases hp
  refine ⟨⟨?_, ?_, ?_, hDirectory _ h.home⟩, h.node?_remove hFile⟩
  · exact h.ascending.filter _
  · exact fun entry hEntry => h.named entry (List.mem_filter.mp hEntry).1
  · exact fun entry hEntry => hDirectory _ (h.parents entry (List.mem_filter.mp hEntry).1)

end Tree

end RowFactory.Disk
