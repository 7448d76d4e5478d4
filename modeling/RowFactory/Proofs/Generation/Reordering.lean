import RowFactory.Proofs.Generation.Staleness
import RowFactory.Proofs.Generation.Survivors

/-! # Declarations in another order

If no two declarations have one table or one path, each of them comes to its verdict on its own, and the order of the
files is that of their paths. What is left of the order of the declarations is the spelling of directories: an index
stands at the path of its directory as it was written where it first occurs.
-/

namespace RowFactory.Generation

open Disk.Path (components join not_same_symm same)
open Source (Declaration Index)

theorem pairwise_names {paths : List String} {entry : String × List String} (h : entry ∈ listingOf paths) :
    entry.2.Pairwise (· < ·) :=
  forall_names (P := List.Pairwise (· < ·)) (fun _ => List.pairwise_singleton _ _)
    (fun _ _ hNames => Ascending.pairwise_insert hNames) paths entry h

/-- Two listings have the same modules in the same directories, which may be spelled in different ways. -/
def Respelled (listing other : Listing) : Prop :=
  List.Forall₂ (fun entry otherEntry => same entry.1 otherEntry.1 ∧ entry.2 = otherEntry.2) listing other

theorem Listing.Ascending.pairwise_key {listing : Listing} (h : listing.Ascending) :
    listing.Pairwise fun entry other => Disk.Path.key entry.1 < Disk.Path.key other.1 :=
  (List.pairwise_map.mp h).imp Disk.Path.before_iff.mp

theorem exists_entry {paths others : List String}
    (h : ∀ path ∈ paths, ∃ directory name, IsModuleFile path directory name) (hPerm : others.Perm paths)
    {entry : String × List String} (hEntry : entry ∈ listingOf paths) :
    ∃ other ∈ listingOf others, same entry.1 other.1 ∧ entry.2 = other.2 := by
  have hOthers : ∀ path ∈ others, ∃ directory name, IsModuleFile path directory name :=
    fun path hPath => h path (hPerm.mem_iff.mp hPath)
  have hLists (d : List Disk.Component) (x : String) : Lists (listingOf paths) d x ↔ Lists (listingOf others) d x := by
    rw [lists_listingOf h, lists_listingOf hOthers]
    simp only [hPerm.mem_iff]
  obtain ⟨x, hx⟩ := exists_lists hEntry
  obtain ⟨other, hOther, hDirectory, _⟩ := (hLists _ _).mp hx
  refine ⟨other, hOther, Disk.Path.same_iff.mpr hDirectory.symm, ?_⟩
  refine (pairwise_names hEntry).eq_of_mem_iff (pairwise_names hOther) fun y => ?_
  rw [← (ascending_listingOf paths).lists_iff hEntry, hLists, ← hDirectory,
    (ascending_listingOf others).lists_iff hOther]

theorem respelled_listingOf {paths others : List String}
    (h : ∀ path ∈ paths, ∃ directory name, IsModuleFile path directory name) (hPerm : others.Perm paths) :
    Respelled (listingOf paths) (listingOf others) := by
  have hOthers : ∀ path ∈ others, ∃ directory name, IsModuleFile path directory name :=
    fun path hPath => h path (hPerm.mem_iff.mp hPath)
  refine Ascending.forall₂_of_ascending (fun _ _ hMatch => Disk.Path.same_iff_key.mp hMatch.1)
    (ascending_listingOf paths).pairwise_key (ascending_listingOf others).pairwise_key
    (fun entry hEntry => exists_entry h hPerm hEntry) fun other hOther => ?_
  obtain ⟨entry, hEntry, hSame, hNames⟩ := exists_entry hOthers hPerm.symm hOther
  exact ⟨entry, hEntry, Disk.Path.same_iff.mpr (Disk.Path.same_iff.mp hSame).symm, hNames.symm⟩

theorem exists_iterate_of_mem_linkAncestors {depth : Nat} {directory d : String} {listing : Listing}
    (h : d ∈ (linkAncestors depth directory listing).map (·.1)) :
    (∃ steps, d = above^[steps + 1] directory) ∨ d ∈ listing.map (·.1) := by
  induction depth generalizing directory listing with
  | zero => exact .inr h
  | succ depth ih =>
    rw [linkAncestors] at h
    split at h
    · exact .inr h
    · rcases ih h with ⟨steps, rfl⟩ | hMem
      · exact .inl ⟨steps + 1, rfl⟩
      · exact (mem_addModule hMem).imp_left fun hAbove => ⟨0, hAbove⟩

theorem exists_iterate_of_mem_addPath {path d : String} {listing : Listing}
    (h : d ∈ (addPath path listing).map (·.1)) : (∃ steps, d = above^[steps + 1] path) ∨ d ∈ listing.map (·.1) := by
  rw [addPath] at h
  split at h
  · exact .inr h
  · rcases exists_iterate_of_mem_linkAncestors h with ⟨steps, hSteps⟩ | hMem
    · exact .inl ⟨steps + 1, hSteps⟩
    · exact (mem_addModule hMem).imp_left fun hAbove => ⟨0, hAbove⟩

theorem exists_iterate_of_mem_listingOf {paths : List String} {d : String} (h : d ∈ (listingOf paths).map (·.1)) :
    ∃ path ∈ paths, ∃ steps, d = above^[steps + 1] path := by
  have hFold (paths : List String) (listing : Listing)
      (h : d ∈ (paths.foldl (fun listing path => addPath path listing) listing).map (·.1)) :
      (∃ path ∈ paths, ∃ steps, d = above^[steps + 1] path) ∨ d ∈ listing.map (·.1) := by
    induction paths generalizing listing with
    | nil => exact .inr h
    | cons path rest ih =>
      rcases ih (addPath path listing) h with ⟨other, hOther, hSteps⟩ | hMem
      · exact .inl ⟨other, List.mem_cons_of_mem path hOther, hSteps⟩
      · exact (exists_iterate_of_mem_addPath hMem).imp_left fun hSteps => ⟨path, List.mem_cons_self, hSteps⟩
  exact (hFold paths [] h).resolve_right List.not_mem_nil

/-- No directory on the ways up from the paths is spelled in two ways. -/
def SpelledAlike (paths : List String) : Prop :=
  ∀ p ∈ paths, ∀ q ∈ paths, ∀ m n, same (above^[m + 1] p) (above^[n + 1] q) → above^[m + 1] p = above^[n + 1] q

theorem listingOf_reordered {paths others : List String}
    (h : ∀ path ∈ paths, ∃ directory name, IsModuleFile path directory name) (hPerm : others.Perm paths)
    (hAlike : SpelledAlike paths) : listingOf others = listingOf paths := by
  have hRespelled := respelled_listingOf h hPerm
  have hSpelling : List.Forall₂ Eq (listingOf paths) (listingOf others) := by
    refine (List.forall₂_iff_get.mpr ⟨hRespelled.length_eq, fun i hi hOther => ?_⟩)
    obtain ⟨hSame, hNames⟩ := (List.forall₂_iff_get.mp hRespelled).2 i hi hOther
    obtain ⟨p, hp, m, hm⟩ := exists_iterate_of_mem_listingOf (List.mem_map_of_mem (List.get_mem _ ⟨i, hi⟩))
    obtain ⟨q, hq, n, hn⟩ := exists_iterate_of_mem_listingOf (List.mem_map_of_mem (List.get_mem _ ⟨i, hOther⟩))
    refine Prod.ext ?_ hNames
    rw [hm, hn] at hSame ⊢
    exact hAlike p hp q (hPerm.mem_iff.mp hq) m n hSame
  rw [List.forall₂_eq_eq_eq] at hSpelling
  exact hSpelling.symm

theorem spelledAlike_of_ofParts {paths : List String}
    (h : ∀ path ∈ paths, ∃ parts, (∀ part ∈ parts, Disk.Path.IsName part) ∧ path = Disk.Path.ofParts parts) :
    SpelledAlike paths := by
  have hAbove (parts : List String) (hNames : ∀ part ∈ parts, Disk.Path.IsName part) :
      ∃ others, (∀ part ∈ others, Disk.Path.IsName part) ∧
        above (Disk.Path.ofParts parts) = Disk.Path.ofParts others := by
    rcases parts.eq_nil_or_concat' with rfl | ⟨init, last, rfl⟩
    · exact ⟨[], hNames, by decide⟩
    · have hInit : ∀ part ∈ init, Disk.Path.IsName part := fun part hPart => hNames part (List.mem_append_left _ hPart)
      refine ⟨init, hInit, ?_⟩
      rw [above, Disk.Path.ofParts_append_singleton, Disk.Path.parent?_join (Disk.Path.endsInName_ofParts hInit)
        (hNames last (List.mem_append_right _ List.mem_cons_self))]
      rfl
  have hWay (steps : Nat) (path : String) (hPath : path ∈ paths) :
      ∃ parts, (∀ part ∈ parts, Disk.Path.IsName part) ∧ above^[steps] path = Disk.Path.ofParts parts := by
    induction steps with
    | zero => exact h path hPath
    | succ steps ih =>
      obtain ⟨parts, hNames, hParts⟩ := ih
      rw [Function.iterate_succ_apply', hParts]
      exact hAbove parts hNames
  intro p hp q hq m n hSame
  obtain ⟨parts, hNames, hParts⟩ := hWay (m + 1) p hp
  obtain ⟨others, hOthers, hOther⟩ := hWay (n + 1) q hq
  rw [hParts, hOther, Disk.Path.same_iff, Disk.Path.goesBy_ofParts hNames, Disk.Path.goesBy_ofParts hOthers,
    Disk.Path.names_map_inj] at hSame
  rw [hParts, hOther, hSame]

/-- The same file; if it is an index, its path may be spelled in another way. -/
structure SameFile (f g : GeneratedFile) : Prop where
  path : same f.path g.path
  content : f.content = g.content
  kind : f.kind = g.kind
  spelling : f.kind ≠ .moduleIndex → f.path = g.path

theorem SameFile.refl (f : GeneratedFile) : SameFile f f := ⟨Disk.Path.same_iff.mpr rfl, rfl, rfl, fun _ => rfl⟩

theorem SameFile.symm {f g : GeneratedFile} (h : SameFile f g) : SameFile g f where
  path := Disk.Path.same_iff.mpr (Disk.Path.same_iff.mp h.path).symm
  content := h.content.symm
  kind := h.kind.symm
  spelling hKind := (h.spelling (h.kind ▸ hKind)).symm

theorem renderFile_respelled {unit content : String} {items : List Code.Item} (other : String)
    (h : Code.renderFile unit items = .ok content) : Code.renderFile other items = .ok content := by
  rw [Code.renderFile] at h ⊢
  split at h
  · rename_i hRead
    rw [if_pos hRead, h]
  · cases h

/-- What an index says, and whether there is one, does not depend on how its directory is spelled. -/
theorem indexFile_respelled {directory other : String} {names : List String} {f : GeneratedFile}
    (hSame : same directory other) (h : indexFile directory names = .ok f) :
    ∃ g, indexFile other names = .ok g ∧ SameFile f g := by
  rw [indexFile] at h
  obtain ⟨idents, hIdents, h⟩ := Results.bind_eq_ok.mp h
  obtain ⟨content, hContent, h⟩ := Results.bind_eq_ok.mp h
  cases h
  have hOther : names.mapM (Code.ident (join other indexName)) = .ok idents :=
    Results.mapM_eq_ok.mpr ((Results.mapM_eq_ok.mp hIdents).imp fun _ _ hName =>
      Code.ident_eq_ok.mpr (Code.ident_eq_ok.mp hName))
  refine ⟨⟨join other indexName, content, .moduleIndex⟩, ?_, ?_⟩
  · refine Results.bind_eq_ok.mpr ⟨idents, hOther, Results.bind_eq_ok.mpr ⟨content, ?_, rfl⟩⟩
    exact renderFile_respelled _ hContent
  · exact ⟨(Disk.Path.same_join_iff isName_indexName isName_indexName).mpr ⟨hSame, rfl⟩, rfl, rfl,
      fun h => absurd rfl h⟩

theorem mapM_indexFile_respelled {listing other : Listing} (h : Respelled listing other) {indexes : List GeneratedFile}
    (hIndexes : List.Forall₂ (fun entry f => indexFile entry.1 entry.2 = .ok f) listing indexes) :
    ∃ others, List.Forall₂ (fun entry f => indexFile entry.1 entry.2 = .ok f) other others ∧
      List.Forall₂ SameFile indexes others := by
  induction h generalizing indexes with
  | nil =>
    cases hIndexes
    exact ⟨[], .nil, .nil⟩
  | cons hEntry _ ih =>
    cases hIndexes with
    | cons hFirst hRest =>
      obtain ⟨g, hg, hSame⟩ := indexFile_respelled hEntry.1 hFirst
      obtain ⟨others, hOthers, hSames⟩ := ih hRest
      exact ⟨g :: others, .cons (hEntry.2 ▸ hg) hOthers, .cons hSame hSames⟩

theorem indexFiles_respelled {files others indexes : List GeneratedFile}
    (h : ∀ f ∈ files, ∃ directory name, IsModuleFile f.path directory name) (hPerm : others.Perm files)
    (hIndexes : indexFiles files = .ok indexes) :
    ∃ again, indexFiles others = .ok again ∧ List.Forall₂ SameFile indexes again := by
  have hRespelled := respelled_listingOf (List.forall_mem_map.mpr h) (hPerm.map GeneratedFile.path)
  obtain ⟨again, hAgain, hSame⟩ := mapM_indexFile_respelled hRespelled (Results.mapM_eq_ok.mp hIndexes)
  exact ⟨again, Results.mapM_eq_ok.mpr hAgain, hSame⟩

theorem exists_sameFile_indexesOf {options : Options} {files others : List GeneratedFile}
    (h : ∀ f ∈ files, ∃ directory name, IsModuleFile f.path directory name) (hPerm : others.Perm files)
    {f : GeneratedFile} (hf : f ∈ indexesOf options files) : ∃ g ∈ indexesOf options others, SameFile f g := by
  obtain ⟨again, hAgain, hSame⟩ := indexFiles_respelled h hPerm (indexFiles_eq_indexesOf hf)
  obtain ⟨g, hg, hMatch⟩ := Results.exists_of_mem_left hSame hf
  have hOption : options.moduleIndex := by
    by_contra hNone
    rw [indexesOf, if_neg hNone] at hf
    cases hf
  refine ⟨g, ?_, hMatch⟩
  rw [indexesOf, if_pos hOption, hAgain]
  exact hg

def unitPaths (options : Options) (index : Index) : List String :=
  index.declarations.flatMap fun d => options.unitKinds.map (unitPath d.moduleName d.table)

/-- No two declarations have one table, or files at one path. -/
structure Apart (options : Options) (index : Index) : Prop where
  tables : (index.declarations.map (·.table)).Nodup
  paths : (unitPaths options index).Pairwise fun p q => ¬ same p q

section Runs

variable {catalog : Schema.Catalog} {options : Options} {index other : Index}

theorem Apart.reordered (h : Apart options index) (hPerm : other.declarations.Perm index.declarations) :
    Apart options other where
  tables := (hPerm.map _).nodup_iff.mpr h.tables
  paths := ((hPerm.flatMap_right _).pairwise_iff not_same_symm).mpr h.paths

theorem Apart.eq_of_same (h : Apart options index) {p q : String} (hp : p ∈ unitPaths options index)
    (hq : q ∈ unitPaths options index) (hSame : same p q) : p = q := by
  have hSymm : Std.Symm fun p q : String => ¬ same p q := ⟨fun _ _ => not_same_symm⟩
  by_contra hDiffer
  exact h.paths.forall hp hq hDiffer hSame

theorem Apart.not_meet (h : Apart options index) {d e : Declaration} (hd : d ∈ index.declarations)
    (he : e ∈ index.declarations) (hTable : d.table ≠ e.table) {kind : FileKind} (hKind : kind ∈ options.unitKinds) :
    ¬ Meet d e := by
  intro hMeet
  have hSymm : Std.Symm fun d e : Declaration =>
      ∀ p ∈ options.unitKinds.map (unitPath d.moduleName d.table),
        ∀ q ∈ options.unitKinds.map (unitPath e.moduleName e.table), ¬ same p q :=
    ⟨fun _ _ h p hp q hq => not_same_symm (h q hq p hp)⟩
  have hDeclarations := (List.pairwise_flatMap.mp h.paths).2
  refine hDeclarations.forall hd he (fun hEq => hTable (congrArg (·.table) hEq)) _ (List.mem_map_of_mem hKind) _
    (List.mem_map_of_mem hKind) ?_
  exact same_unitPath_iff.mpr ⟨hMeet.1, hMeet.2, rfl⟩

theorem attempts_of_nodup {earlier declarations : List Declaration}
    (hEarlier : ∀ e ∈ earlier, ∀ d ∈ declarations, e.table ≠ d.table) (h : (declarations.map (·.table)).Nodup) :
    attempts catalog options index earlier declarations =
      declarations.map fun d => (d, generateTable catalog options index d) := by
  induction declarations generalizing earlier with
  | nil => rfl
  | cons d rest ih =>
    obtain ⟨hNew, hRest⟩ := List.nodup_cons.mp h
    have hLater : ∀ e ∈ earlier ++ [d], ∀ x ∈ rest, e.table ≠ x.table := by
      intro e he x hx
      rcases List.mem_append.mp he with he | he
      · exact hEarlier e he x (List.mem_cons_of_mem d hx)
      · rw [List.mem_singleton.mp he]
        exact fun hTable => hNew (List.mem_map.mpr ⟨x, hx, hTable.symm⟩)
    rw [attempts, attempt_of_first fun e he => hEarlier e he d List.mem_cons_self, ih hLater hRest, List.map_cons]

theorem attempts_reordered (catalog : Schema.Catalog) (hApart : Apart options index)
    (hPerm : other.declarations.Perm index.declarations) (hStructs : other.structs = index.structs) :
    (attempts catalog options other [] other.declarations).Perm
      (attempts catalog options index [] index.declarations) := by
  rw [attempts_of_nodup (by simp) hApart.tables, attempts_of_nodup (by simp) (hApart.reordered hPerm).tables]
  simp only [generateTable_congr hStructs]
  exact hPerm.map _

theorem Apart.distinct (h : Apart options index) (catalog : Schema.Catalog) :
    (process catalog options index).output.Distinct := by
  rw [distinct_iff_pairwise_units, pairwise_units_iff, or_iff_not_imp_left]
  intro hKinds d e ⟨_, hd⟩ ⟨_, he⟩ hTable
  obtain ⟨kind, hKind⟩ := List.exists_mem_of_ne_nil _ hKinds
  exact h.not_meet (declaration_of_mem_attempts hd) (declaration_of_mem_attempts he) hTable hKind

theorem pairwise_key_files (h : (process catalog options index).output.Distinct) :
    (process catalog options index).output.files.Pairwise fun f g =>
      Disk.Path.key f.path < Disk.Path.key g.path := by
  have hSorted : (process catalog options index).output.files.Pairwise fun f g => Disk.Path.le f.path g.path := by
    rw [process_output]
    refine List.pairwise_mergeSort (fun f g h => ?_) (fun f g => ?_) _
    · simp only [Disk.Path.le_iff]
      exact le_trans
    · rw [Bool.or_eq_true, Disk.Path.le_iff, Disk.Path.le_iff]
      exact le_total _ _
  refine (hSorted.and h).imp fun {f g} hBoth => ?_
  exact lt_of_le_of_ne (Disk.Path.le_iff.mp hBoth.1) fun hKey => hBoth.2 (Disk.Path.same_iff_key.mpr hKey)

theorem exists_isModuleFile {f : GeneratedFile} (hf : f ∈ unitsOf catalog options index) :
    ∃ directory name, IsModuleFile f.path directory name := by
  obtain ⟨d, _, output, hGenerated, hf⟩ := exists_generated hf
  obtain ⟨kind, _, hPath, _⟩ := hGenerated.mem_files hf
  exact ⟨_, _, hPath ▸ isModuleFile_unitPath d.moduleName d.table kind⟩

theorem exists_sameFile (hUnits : (unitsOf catalog options other).Perm (unitsOf catalog options index))
    {f : GeneratedFile} (hf : f ∈ (process catalog options index).output.files) :
    ∃ g ∈ (process catalog options other).output.files, SameFile f g := by
  rcases List.mem_append.mp ((perm_files catalog options index).mem_iff.mp hf) with hf | hf
  · exact ⟨f, (perm_files catalog options other).mem_iff.mpr (List.mem_append_left _ (hUnits.mem_iff.mpr hf)), .refl f⟩
  · obtain ⟨g, hg, hSame⟩ := exists_sameFile_indexesOf (fun f hf => exists_isModuleFile hf) hUnits hf
    exact ⟨g, (perm_files catalog options other).mem_iff.mpr (List.mem_append_right _ hg), hSame⟩

theorem files_eq_of_spelledAlike (hApart : Apart options index)
    (hPerm : other.declarations.Perm index.declarations)
    (hUnits : (unitsOf catalog options other).Perm (unitsOf catalog options index))
    (hAlike : SpelledAlike ((unitsOf catalog options index).map (·.path))) :
    (process catalog options other).output.files = (process catalog options index).output.files := by
  have hListing : listingOf ((unitsOf catalog options other).map (·.path)) =
      listingOf ((unitsOf catalog options index).map (·.path)) :=
    listingOf_reordered (List.forall_mem_map.mpr fun f hf => exists_isModuleFile hf) (hUnits.map _) hAlike
  have hIndexes : indexesOf options (unitsOf catalog options other) =
      indexesOf options (unitsOf catalog options index) := by
    rw [indexesOf, indexesOf, indexFiles, indexFiles, hListing]
  refine Ascending.eq_of_ascending (pairwise_key_files ((hApart.reordered hPerm).distinct catalog))
    (pairwise_key_files (hApart.distinct catalog)) fun f => ?_
  rw [(perm_files catalog options other).mem_iff, (perm_files catalog options index).mem_iff, hIndexes,
    List.mem_append, List.mem_append, hUnits.mem_iff]

theorem spelledAlike_unitsOf (hModules : ∀ d ∈ index.declarations, IsModulePath d.moduleName) :
    SpelledAlike ((unitsOf catalog options index).map (·.path)) := by
  refine spelledAlike_of_ofParts (List.forall_mem_map.mpr fun f hf => ?_)
  obtain ⟨d, hd, output, hGenerated, hf⟩ := exists_generated hf
  obtain ⟨kind, _, hPath, _⟩ := hGenerated.mem_files hf
  obtain ⟨segments, names, hModule, hSegments⟩ := hModules d hd
  refine ⟨names ++ [fileName (stemOf d.table) kind], fun part hPart => ?_, ?_⟩
  · rcases List.mem_append.mp hPart with hPart | hPart
    · obtain ⟨segment, _, hSegment⟩ := Results.exists_of_mem hSegments hPart
      exact isName_of_isSome hSegment.1
    · rw [List.mem_singleton.mp hPart]
      exact isName_unit d.table kind
  · rw [hPath, unitPath_eq, Disk.Path.ofParts_append_singleton, directoryOf, hModule,
      directoryParts_intercalate (hSegments.imp fun _ _ => IsSegment.namesPart)]

theorem mem_unitPaths_of_mem_stalePaths {path : String} (h : path ∈ (process catalog options index).stalePaths) :
    path ∈ unitPaths options index := by
  obtain ⟨d, hd, kind, hKind, hPath⟩ := exists_failed h
  rw [hPath]
  exact List.mem_flatMap.mpr ⟨d, hd, List.mem_map_of_mem hKind⟩

/-- A stale path is stale after another order of the declarations, and spelled as it was: its declaration spells it. -/
theorem mem_stalePaths_reordered (hApart : Apart options index)
    (hPerm : other.declarations.Perm index.declarations) (hStructs : other.structs = index.structs) {path : String}
    (h : path ∈ (process catalog options index).stalePaths) : path ∈ (process catalog options other).stalePaths := by
  have hVerdicts := attempts_reordered catalog hApart hPerm hStructs
  have hStale : IsStale catalog options index path :=
    exists_same_stalePaths_iff.mp ⟨path, h, Disk.Path.same_iff.mpr rfl⟩
  have hAgain : IsStale catalog options other path := by
    simpa only [IsStale, Fails, Succeeds, hVerdicts.mem_iff] using hStale
  obtain ⟨stale, hMem, hSame⟩ := exists_same_stalePaths_iff.mpr hAgain
  have hUnit : stale ∈ unitPaths options index :=
    (hPerm.flatMap_right _).mem_iff.mp (mem_unitPaths_of_mem_stalePaths hMem)
  rw [← hApart.eq_of_same hUnit (mem_unitPaths_of_mem_stalePaths h) hSame]
  exact hMem

theorem stalePaths_reordered (hApart : Apart options index) (hPerm : other.declarations.Perm index.declarations)
    (hStructs : other.structs = index.structs) :
    (process catalog options other).stalePaths = (process catalog options index).stalePaths := by
  have hAscending (o : Outcome) : o.stalePaths.Pairwise fun a b => Disk.Path.key a < Disk.Path.key b :=
    (pairwise_stalePaths o).imp Disk.Path.before_iff.mp
  refine Ascending.eq_of_ascending (hAscending _) (hAscending _) fun path => ⟨?_, ?_⟩
  · exact mem_stalePaths_reordered (hApart.reordered hPerm) hPerm.symm hStructs.symm
  · exact mem_stalePaths_reordered hApart hPerm hStructs

/-- If no two declarations have one table or files at one path, then a run over them in another order gives the same
files, in the order of their paths: with the same contents and kinds, at the same paths letter by letter, but for
indexes of directories that are spelled in two ways. If no directory is, as where all modules are written with
identifiers, nothing differs in any file. The same tables succeed, the others fail in the same way, and the same paths
are stale. -/
theorem process_reordered (catalog : Schema.Catalog) (options : Options) {index other : Index}
    (hApart : Apart options index) (hPerm : other.declarations.Perm index.declarations)
    (hStructs : other.structs = index.structs) :
    let o := process catalog options index
    let again := process catalog options other
    List.Forall₂ SameFile o.output.files again.output.files ∧
      (SpelledAlike ((unitsOf catalog options index).map (·.path)) → again.output.files = o.output.files) ∧
      ((∀ d ∈ index.declarations, IsModulePath d.moduleName) → again.output.files = o.output.files) ∧
      again.tables.Perm o.tables ∧ again.stalePaths = o.stalePaths ∧ again.failures.Perm o.failures := by
  intro o again
  have hVerdicts := attempts_reordered catalog hApart hPerm hStructs
  have hUnits : (unitsOf catalog options other).Perm (unitsOf catalog options index) := hVerdicts.flatMap_right _
  have hAlike := files_eq_of_spelledAlike hApart hPerm hUnits
  refine ⟨?_, hAlike, fun hModules => hAlike (spelledAlike_unitsOf hModules), (hVerdicts.filterMap _).map _,
    stalePaths_reordered hApart hPerm hStructs, hVerdicts.filterMap _⟩
  refine Ascending.forall₂_of_ascending (fun _ _ hSame => Disk.Path.same_iff_key.mp hSame.path)
    (pairwise_key_files (hApart.distinct catalog)) (pairwise_key_files ((hApart.reordered hPerm).distinct catalog))
    (fun f hf => exists_sameFile hUnits hf) fun g hg => ?_
  obtain ⟨f, hf, hSame⟩ := exists_sameFile hUnits.symm hg
  exact ⟨f, hf, hSame.symm⟩

def reversedIndex : Index := { nestedIndex with declarations := nestedIndex.declarations.reverse }

theorem process_reordered_nested :
    Apart {} nestedIndex ∧ reversedIndex.declarations.Perm nestedIndex.declarations ∧
      reversedIndex.structs = nestedIndex.structs ∧
      (process Fixtures.catalog {} reversedIndex).output.files =
        (process Fixtures.catalog {} nestedIndex).output.files := by
  have hApart : Apart {} nestedIndex := ⟨by decide, by decide +kernel⟩
  have hPerm : reversedIndex.declarations.Perm nestedIndex.declarations := List.reverse_perm nestedIndex.declarations
  obtain ⟨_, _, hFiles, _⟩ := process_reordered Fixtures.catalog {} hApart hPerm rfl
  exact ⟨hApart, hPerm, rfl, hFiles isModulePath_nested⟩

end Runs

def plainFactory : Declaration := ⟨"users", "UserFactory", "crate::a::b", "lib.rs"⟩

/-- A factory in the same directory: the raw point in its module stands for the directory at hand. -/
def pointedFactory : Declaration := ⟨"categories", "CategoryFactory", "crate::a::r#.::b", "lib.rs"⟩

def spelledIndex (declarations : List Declaration) : Index :=
  ⟨declarations, [("CategoriesRecord", ["crate"]), ("UsersRecord", ["crate"])]⟩

theorem paths_spelled :
    (unsorted Fixtures.catalog sparseOptions (spelledIndex [plainFactory, pointedFactory])).output.files.map (·.path) =
      ["a/b/users_factory_builder.rs", "a/./b/categories_factory_builder.rs", "mod.rs", "a/mod.rs", "a/b/mod.rs"] ∧
    (unsorted Fixtures.catalog sparseOptions (spelledIndex [pointedFactory, plainFactory])).output.files.map (·.path) =
      ["a/./b/categories_factory_builder.rs", "a/b/users_factory_builder.rs", "mod.rs", "a/mod.rs",
        "a/./b/mod.rs"] := by
  decide +kernel

/-- The index stands at the path of its directory as the first of the two factories spells it. -/
theorem exists_reordered_respelled :
    Apart sparseOptions (spelledIndex [plainFactory, pointedFactory]) ∧
      [pointedFactory, plainFactory].Perm [plainFactory, pointedFactory] ∧
      (process Fixtures.catalog sparseOptions (spelledIndex [pointedFactory, plainFactory])).output.files ≠
        (process Fixtures.catalog sparseOptions (spelledIndex [plainFactory, pointedFactory])).output.files := by
  refine ⟨⟨by decide, by decide +kernel⟩, List.Perm.swap _ _ _, fun hFiles => ?_⟩
  have hPerm : (unsorted Fixtures.catalog sparseOptions (spelledIndex [plainFactory, pointedFactory])).output.files.Perm
      (unsorted Fixtures.catalog sparseOptions (spelledIndex [pointedFactory, plainFactory])).output.files :=
    ((perm_files _ _ _).symm.trans (.of_eq hFiles.symm)).trans (perm_files _ _ _)
  have hPaths := (hPerm.map (·.path)).mem_iff (a := "a/b/mod.rs")
  rw [paths_spelled.1, paths_spelled.2] at hPaths
  revert hPaths
  decide

end RowFactory.Generation
