import Mathlib.Data.List.Nodup
import Mathlib.Logic.Function.Iterate
import RowFactory.Proofs.Ascending
import RowFactory.Proofs.Code.Declarations
import RowFactory.Proofs.Disk.Names
import RowFactory.Proofs.Generation.Indexes

/-! # What listings list

A listing has a module in a directory just if the way to some file leads through it. The way of a file goes on
by names from a directory that is not named to the stem of the file; every part of it is listed in the part
before.
-/

namespace RowFactory.Generation

open Disk (Component)
open Disk.Path (components fileName? parent? fileStem? join)

def Lists (listing : Listing) (directory : List Component) (name : String) : Prop :=
  ∃ entry ∈ listing, components entry.1 = directory ∧ name ∈ entry.2

theorem lists_cons {first : String} {names : List String} {rest : Listing} {d : List Component} {x : String} :
    Lists ((first, names) :: rest) d x ↔ (components first = d ∧ x ∈ names) ∨ Lists rest d x := by
  simp [Lists]

theorem lists_addModule {directory name : String} {listing : Listing} {d : List Component} {x : String} :
    Lists (addModule directory name listing) d x ↔ (components directory = d ∧ x = name) ∨ Lists listing d x := by
  induction listing with
  | nil => simp [addModule, Lists]
  | cons entry rest ih =>
    obtain ⟨first, names⟩ := entry
    rw [addModule]
    split
    · rename_i hSame
      rw [lists_cons, lists_cons, Ascending.mem_insert, Disk.Path.same_iff.mp hSame, and_or_left, or_assoc]
    · split
      · rw [lists_cons, List.mem_singleton]
      · rw [lists_cons, lists_cons, ih, or_left_comm]

/-- A way goes through a module of a directory, and on by names to its end. -/
def Passes (way directory : List Component) (name : String) : Prop :=
  ∃ rest : List String, way = directory ++ .name name :: rest.map .name

theorem Passes.exists_concat {way directory : List Component} {name : String} (h : Passes way directory name) :
    ∃ above last, way = above ++ [.name last] := by
  obtain ⟨rest, rfl⟩ := h
  rcases rest.eq_nil_or_concat' with rfl | ⟨names, last, rfl⟩
  · exact ⟨directory, name, rfl⟩
  · exact ⟨directory ++ .name name :: names.map .name, last, by simp⟩

theorem passes_concat {above directory : List Component} {last name : String} :
    Passes (above ++ [.name last]) directory name ↔
      (above = directory ∧ name = last) ∨ Passes above directory name := by
  constructor
  · rintro ⟨rest, hWay⟩
    rcases rest.eq_nil_or_concat' with rfl | ⟨names, other, rfl⟩
    · obtain ⟨rfl, hLast⟩ := List.append_inj' hWay rfl
      cases hLast
      exact .inl ⟨rfl, rfl⟩
    · have hSplit : directory ++ .name name :: (names ++ [other]).map .name =
          (directory ++ .name name :: names.map .name) ++ [.name other] := by simp
      rw [hSplit] at hWay
      exact .inr ⟨names, (List.append_inj' hWay rfl).1⟩
  · rintro (⟨rfl, rfl⟩ | ⟨rest, rfl⟩)
    · exact ⟨[], rfl⟩
    · exact ⟨rest ++ [last], by simp⟩

theorem lists_linkAncestors {depth : Nat} {directory : String} (h : (components directory).length ≤ depth)
    {listing : Listing} {d : List Component} {x : String} :
    Lists (linkAncestors depth directory listing) d x ↔
      Passes (components directory) d x ∨ Lists listing d x := by
  induction depth generalizing directory listing with
  | zero =>
    have hNone : ¬ Passes (components directory) d x := by
      intro hPasses
      obtain ⟨above, last, hWay⟩ := hPasses.exists_concat
      rw [hWay, List.length_append] at h
      exact absurd h (by simp)
    rw [linkAncestors, or_iff_right hNone]
  | succ depth ih =>
    rw [linkAncestors]
    cases hName : fileName? directory with
    | none =>
      have hNone : ¬ Passes (components directory) d x := by
        intro hPasses
        obtain ⟨above, last, hWay⟩ := hPasses.exists_concat
        rw [Disk.Path.fileName?_eq_some.mpr ⟨above, hWay⟩] at hName
        cases hName
      exact (or_iff_right hNone).symm
    | some name =>
      obtain ⟨cs, hComponents⟩ := Disk.Path.fileName?_eq_some.mp hName
      obtain ⟨above, hAbove, hcs⟩ := Disk.Path.parent?_of_components hComponents
      simp only [hAbove, Option.getD_some]
      have hLength : (components above).length ≤ depth := by
        rw [hComponents, List.length_append, List.length_singleton] at h
        rw [hcs]
        omega
      rw [ih hLength, lists_addModule, hComponents, passes_concat, hcs, or_left_comm, or_assoc]

def above (directory : String) : String := (parent? directory).getD ""

/-- Climbing comes to an end, after no more steps than the directory has components. -/
theorem exists_iterate_above (directory : String) :
    ∃ steps ≤ (components directory).length, fileName? (above^[steps] directory) = none := by
  generalize hLength : (components directory).length = length
  induction length generalizing directory with
  | zero =>
    refine ⟨0, Nat.le_refl 0, ?_⟩
    rw [Function.iterate_zero, id, fileName?, List.eq_nil_of_length_eq_zero hLength]
    rfl
  | succ length ih =>
    cases hName : fileName? directory with
    | none => exact ⟨0, Nat.zero_le _, hName⟩
    | some name =>
      obtain ⟨cs, hComponents⟩ := Disk.Path.fileName?_eq_some.mp hName
      obtain ⟨next, hNext, hcs⟩ := Disk.Path.parent?_of_components hComponents
      rw [hComponents, List.length_append, List.length_singleton] at hLength
      obtain ⟨steps, hSteps, hEnd⟩ := ih next (by rw [hcs]; omega)
      refine ⟨steps + 1, by omega, ?_⟩
      rw [Function.iterate_succ_apply, above, hNext]
      exact hEnd

/-- The path is that of the file of a module in a directory. -/
structure IsModuleFile (path : String) (directory : List Component) (name : String) : Prop where
  path : components path = directory ++ [.name (name ++ ".rs")]
  name : name ≠ ""

theorem IsModuleFile.fileStem? {path name : String} {directory : List Component}
    (h : IsModuleFile path directory name) : fileStem? path = some name := by
  have hEnding : name ++ ".rs" = name ++ "." ++ "rs" := by
    rw [String.append_assoc]
    rfl
  exact Disk.Path.fileStem?_of_components (hEnding ▸ h.path) h.name (by decide)

theorem lists_addPath {path name : String} {directory : List Component} (h : IsModuleFile path directory name)
    {listing : Listing} {d : List Component} {x : String} :
    Lists (addPath path listing) d x ↔ Passes (directory ++ [.name name]) d x ∨ Lists listing d x := by
  obtain ⟨above, hAbove, rfl⟩ := Disk.Path.parent?_of_components h.path
  rw [addPath, h.fileStem?, hAbove]
  simp only [Option.getD_some]
  rw [lists_linkAncestors (Nat.le_refl _), lists_addModule, passes_concat, or_left_comm, or_assoc]

theorem IsModuleFile.unique {path name other : String} {directory otherDirectory : List Component}
    (h : IsModuleFile path directory name) (hOther : IsModuleFile path otherDirectory other) :
    directory = otherDirectory ∧ name = other := by
  have hName : some name = some other := h.fileStem?.symm.trans hOther.fileStem?
  exact ⟨(List.append_inj' (h.path.symm.trans hOther.path) rfl).1, Option.some.inj hName⟩

theorem lists_listingOf {paths : List String} (h : ∀ path ∈ paths, ∃ directory name, IsModuleFile path directory name)
    {d : List Component} {x : String} :
    Lists (listingOf paths) d x ↔
      ∃ path ∈ paths, ∃ directory name, IsModuleFile path directory name ∧
        Passes (directory ++ [.name name]) d x := by
  have hFold (listing : Listing) :
      Lists (paths.foldl (fun listing path => addPath path listing) listing) d x ↔
        (∃ path ∈ paths, ∃ directory name, IsModuleFile path directory name ∧
          Passes (directory ++ [.name name]) d x) ∨ Lists listing d x := by
    induction paths generalizing listing with
    | nil => simp
    | cons path rest ih =>
      obtain ⟨directory, name, hPath⟩ := h path List.mem_cons_self
      have hOnly : (∃ directory name, IsModuleFile path directory name ∧ Passes (directory ++ [.name name]) d x) ↔
          Passes (directory ++ [.name name]) d x := by
        constructor
        · rintro ⟨otherDirectory, other, hOther, hPasses⟩
          obtain ⟨rfl, rfl⟩ := hPath.unique hOther
          exact hPasses
        · exact fun hPasses => ⟨directory, name, hPath, hPasses⟩
      rw [List.foldl_cons, ih fun other hOther => h other (List.mem_cons_of_mem _ hOther), lists_addPath hPath]
      simp only [List.mem_cons, exists_eq_or_imp]
      rw [hOnly, or_left_comm, or_assoc]
  have hStart : ¬ Lists [] d x := fun ⟨_, hMem, _⟩ => absurd hMem List.not_mem_nil
  rw [listingOf, hFold, or_iff_left hStart]

theorem lists_closed {paths : List String} (h : ∀ path ∈ paths, ∃ directory name, IsModuleFile path directory name)
    {d : List Component} {x : String} (hLists : Lists (listingOf paths) d x) :
    (∃ path ∈ paths, IsModuleFile path d x) ∨ ∃ y, Lists (listingOf paths) (d ++ [.name x]) y := by
  obtain ⟨path, hPath, directory, name, hFile, rest, hWay⟩ := (lists_listingOf h).mp hLists
  cases rest with
  | nil =>
    obtain ⟨rfl, hName⟩ := List.append_inj' hWay rfl
    cases hName
    exact .inl ⟨path, hPath, hFile⟩
  | cons y others =>
    refine .inr ⟨y, (lists_listingOf h).mpr ⟨path, hPath, directory, name, hFile, others, ?_⟩⟩
    rw [hWay]
    simp

/-- What holds of the names in each directory, when modules are added one by one. -/
theorem forall_names {P : List String → Prop} (hFirst : ∀ name, P [name])
    (hInsert : ∀ name names, P names → P (Ascending.insert name names)) (paths : List String) :
    ∀ entry ∈ listingOf paths, P entry.2 := by
  refine listingOf_induction (P := fun listing => ∀ entry ∈ listing, P entry.2) ?_ ?_ paths
  · exact fun _ hMem => absurd hMem List.not_mem_nil
  · intro directory name listing hListing
    induction listing with
    | nil => exact List.forall_mem_cons.mpr ⟨hFirst name, hListing⟩
    | cons first rest ih =>
      have hNames := hListing first List.mem_cons_self
      have hRest := fun other hOther => hListing other (List.mem_cons_of_mem first hOther)
      rw [addModule]
      split
      · exact List.forall_mem_cons.mpr ⟨hInsert name first.2 hNames, hRest⟩
      · split
        · exact List.forall_mem_cons.mpr ⟨hFirst name, hListing⟩
        · exact List.forall_mem_cons.mpr ⟨hNames, ih hRest⟩

theorem exists_lists {paths : List String} {entry : String × List String} (h : entry ∈ listingOf paths) :
    ∃ x, Lists (listingOf paths) (components entry.1) x := by
  have hNames : entry.2 ≠ [] :=
    forall_names (P := fun names => names ≠ []) (fun _ => List.cons_ne_nil _ _)
      (fun _ _ _ => List.ne_nil_of_mem (Ascending.mem_insert.mpr (.inl rfl))) paths entry h
  obtain ⟨x, rest, hNamesEq⟩ := List.exists_cons_of_ne_nil hNames
  exact ⟨x, entry, h, rfl, hNamesEq ▸ List.mem_cons_self⟩

theorem Listing.Ascending.entry_eq {listing : Listing} (h : listing.Ascending) {entry other : String × List String}
    (hEntry : entry ∈ listing) (hOther : other ∈ listing) (hComponents : components entry.1 = components other.1) :
    entry = other := by
  have hNodup : (listing.map fun entry => components entry.1).Nodup := by
    rw [List.Nodup, List.pairwise_map]
    refine (List.pairwise_map.mp h).imp fun {a b} hBefore hSame => ?_
    rw [Disk.Path.before_iff, Disk.Path.same_iff_key.mp (Disk.Path.same_iff.mpr hSame)] at hBefore
    exact lt_irrefl _ hBefore
  exact List.inj_on_of_nodup_map hNodup hEntry hOther hComponents

theorem Listing.Ascending.lists_iff {listing : Listing} (h : listing.Ascending) {entry : String × List String}
    (hEntry : entry ∈ listing) {x : String} : Lists listing (components entry.1) x ↔ x ∈ entry.2 := by
  constructor
  · rintro ⟨other, hOther, hSame, hx⟩
    rw [← h.entry_eq hOther hEntry hSame]
    exact hx
  · exact fun hx => ⟨entry, hEntry, rfl, hx⟩

def IsIndexFile (path : String) (directory : List Component) : Prop :=
  components path = directory ++ [.name indexName]

theorem indexFile_declares {directory : String} {names : List String} {file : GeneratedFile}
    (h : indexFile directory names = .ok file) :
    IsIndexFile file.path (components directory) ∧ Code.declaredModules file.content = names := by
  refine ⟨?_, ?_⟩
  · rw [IsIndexFile, (indexFile_eq_ok h).1, Disk.Path.components_join_name directory isName_indexName]
  · rw [indexFile] at h
    obtain ⟨idents, hIdents, h⟩ := Results.bind_eq_ok.mp h
    have hNames : List.Forall₂ (fun name i => Code.Ident.ofName? name = some i) names idents :=
      (Results.mapM_eq_ok.mp hIdents).imp fun _ _ => Code.ident_eq_ok.mp
    obtain ⟨content, hContent, hDeclared⟩ :=
      Code.declaredModules_renderFile (join directory indexName) hNames
    rw [hContent] at h
    cases h
    exact hDeclared

theorem exists_indexFile {directory : String} {names : List String}
    (h : ∀ name ∈ names, (Code.Ident.ofName? name).isSome) : ∃ file, indexFile directory names = .ok file := by
  obtain ⟨idents, hIdents⟩ : ∃ idents, names.mapM (Code.ident (join directory indexName)) = .ok idents := by
    refine Results.exists_mapM_eq_ok fun name hName => ?_
    obtain ⟨i, hi⟩ := Option.isSome_iff_exists.mp (h name hName)
    exact ⟨i, Code.ident_eq_ok.mpr hi⟩
  have hNames : List.Forall₂ (fun name i => Code.Ident.ofName? name = some i) names idents :=
    (Results.mapM_eq_ok.mp hIdents).imp fun _ _ => Code.ident_eq_ok.mp
  obtain ⟨content, hContent, _⟩ := Code.declaredModules_renderFile (join directory indexName) hNames
  refine ⟨⟨join directory indexName, content, .moduleIndex⟩, ?_⟩
  exact Results.bind_eq_ok.mpr ⟨idents, hIdents, Results.bind_eq_ok.mpr ⟨content, hContent, rfl⟩⟩

theorem exists_indexFiles {files : List GeneratedFile}
    (h : ∀ d x, Lists (listingOf (files.map (·.path))) d x → (Code.Ident.ofName? x).isSome) :
    ∃ indexes, indexFiles files = .ok indexes := by
  refine Results.exists_mapM_eq_ok fun entry hEntry => exists_indexFile fun name hName => ?_
  exact h _ name ⟨entry, hEntry, rfl, hName⟩

/-- Each directory of a listing has an index, which declares just the modules in it. -/
structure Indexed (listing : Listing) (indexes : List GeneratedFile) : Prop where
  exists_index : ∀ {d x}, Lists listing d x → ∃ g ∈ indexes, IsIndexFile g.path d
  declares : ∀ {g}, g ∈ indexes → ∃ d, IsIndexFile g.path d ∧ (∃ x, Lists listing d x) ∧
    ∀ x, x ∈ Code.declaredModules g.content ↔ Lists listing d x

theorem indexed_indexFiles {files indexes : List GeneratedFile} (h : indexFiles files = .ok indexes) :
    Indexed (listingOf (files.map (·.path))) indexes := by
  have hEntries := Results.mapM_eq_ok.mp h
  constructor
  · rintro d x ⟨entry, hEntry, rfl, _⟩
    obtain ⟨g, hg, hIndex⟩ := Results.exists_of_mem_left hEntries hEntry
    exact ⟨g, hg, (indexFile_declares hIndex).1⟩
  · intro g hg
    obtain ⟨entry, hEntry, hIndex⟩ := Results.exists_of_mem hEntries hg
    obtain ⟨hPath, hDeclared⟩ := indexFile_declares hIndex
    refine ⟨components entry.1, hPath, exists_lists hEntry, fun x => ?_⟩
    rw [hDeclared, (ascending_listingOf _).lists_iff hEntry]

end RowFactory.Generation
