import RowFactory.Fixtures.Tables
import RowFactory.Proofs.Generation.Accounting
import RowFactory.Proofs.Generation.Listings
import RowFactory.Proofs.Generation.ModulePaths

/-! # The tree of generated modules

The indexes of a run make a tree of modules out of its files: every file can be reached from the top, and every
declaration leads to a file or on to another index.
-/

namespace RowFactory.Generation

open Disk (Component)
open Disk.Path (components fileName? GoesBy)
open Source (Index)

instance (path : String) (directory : List Component) : Decidable (IsIndexFile path directory) :=
  inferInstanceAs (Decidable (components path = directory ++ [.name indexName]))

/-- Directories, and files without their ending, that declarations lead to from the top. -/
inductive Reaches (files : List GeneratedFile) : List String → Prop where
  | top : Reaches files []
  | down {directory : List String} {name : String} {index : GeneratedFile} :
      Reaches files directory → index ∈ files → IsIndexFile index.path (directory.map .name) →
        name ∈ Code.declaredModules index.content → Reaches files (directory ++ [name])

def HasUnit (files : List GeneratedFile) (directory : List String) (name : String) : Prop :=
  ∃ f ∈ files, f.kind ≠ .moduleIndex ∧ IsModuleFile f.path (directory.map .name) name

/-- Files that are a complete and closed tree of modules. -/
structure ModuleTree (files : List GeneratedFile) : Prop where
  /-- The file of every table can be reached from the top. -/
  reached : ∀ f ∈ files, f.kind ≠ .moduleIndex →
    ∃ directory name, IsModuleFile f.path (directory.map .name) name ∧ Reaches files (directory ++ [name])
  /-- A directory with the file of a table somewhere below has one index. -/
  single : ∀ directory below name, HasUnit files (directory ++ below) name →
    (files.filter fun f => IsIndexFile f.path (directory.map .name)).length = 1
  /-- No other directory has an index. -/
  only : ∀ f ∈ files, f.kind = .moduleIndex ∨ (∃ directory, IsIndexFile f.path directory) →
    ∃ directory, IsIndexFile f.path (directory.map .name) ∧ ∃ below name, HasUnit files (directory ++ below) name
  /-- A declaration is that of a file of a table, or of a directory that has an index. -/
  closed : ∀ f ∈ files, ∀ directory, IsIndexFile f.path (directory.map .name) →
    ∀ name ∈ Code.declaredModules f.content, HasUnit files directory name ∨
      ∃ g ∈ files, g.kind = .moduleIndex ∧ IsIndexFile g.path ((directory ++ [name]).map .name)

theorem passes_names {way : List String} {d : List Component} {x : String} :
    Passes (way.map .name) d x ↔ ∃ directory, d = directory.map .name ∧ directory ++ [x] <+: way := by
  constructor
  · rintro ⟨rest, hWay⟩
    obtain ⟨directory, after, rfl, rfl, hAfter⟩ := List.map_eq_append_iff.mp hWay
    rw [← List.map_cons, Disk.Path.names_map_inj] at hAfter
    exact ⟨directory, rfl, rest, by rw [hAfter, List.append_assoc]; rfl⟩
  · rintro ⟨directory, rfl, rest, rfl⟩
    exact ⟨rest, by simp⟩

theorem not_isIndexFile {path name : String} {directory other : List Component}
    (h : IsModuleFile path directory name) (hName : name ≠ "mod") : ¬ IsIndexFile path other := by
  intro hIndex
  have hNames : Component.name (name ++ ".rs") = .name indexName :=
    List.cons.inj (List.append_inj' (h.path.symm.trans hIndex) rfl).2 |>.1
  have hFile : name ++ ".rs" = "mod" ++ ".rs" := Component.name.inj hNames
  exact hName ((String.append_left_inj ".rs").mp hFile)

theorem isModuleFile_unitPath (moduleName table : String) (kind : FileKind) :
    IsModuleFile (unitPath moduleName table kind) (components (directoryOf moduleName))
      (stemOf table ++ kind.suffix) where
  path := by rw [unitPath_eq, Disk.Path.components_join_name _ (isName_unit table kind), fileName]
  name := by
    intro hEmpty
    have hSuffix := (String.append_eq_empty_iff.mp hEmpty).2
    revert hSuffix
    cases kind <;> decide

theorem unitName_ne_mod (table : String) {kind : FileKind} (hKind : kind ≠ .moduleIndex) :
    stemOf table ++ kind.suffix ≠ "mod" := by
  intro hMod
  have hFile : fileName (stemOf table) kind = fileName "" .moduleIndex := congrArg (· ++ ".rs") hMod
  exact hKind (fileName_inj.mp hFile).2

/-- The file goes down by identifiers to a module that is no index. -/
structure GoesDown (f : GeneratedFile) (directory : List String) (name : String) : Prop where
  file : IsModuleFile f.path (directory.map .name) name
  kind : f.kind ≠ .moduleIndex
  notIndex : name ≠ "mod"
  identifiers : ∀ part ∈ directory ++ [name], (Code.Ident.ofName? part).isSome

theorem exists_next {above directory : List String} (h : above <+: directory) (name : String) :
    ∃ x, above ++ [x] <+: directory ++ [name] := by
  obtain ⟨rest, rfl⟩ := h
  cases rest with
  | nil => exact ⟨name, by simp⟩
  | cons x others => exact ⟨x, others ++ [name], by simp⟩

theorem length_filter_isIndexFile {units indexes : List GeneratedFile} (h : indexFiles units = .ok indexes)
    (directory : List Component) : (indexes.filter fun f => IsIndexFile f.path directory).length ≤ 1 := by
  have hPairwise := (pairwise_indexFiles h).filter fun f => IsIndexFile f.path directory
  have hSame : ∀ f ∈ indexes.filter fun f => IsIndexFile f.path directory, IsIndexFile f.path directory :=
    fun f hf => of_decide_eq_true (List.mem_filter.mp hf).2
  generalize (indexes.filter fun f => IsIndexFile f.path directory) = filtered at hPairwise hSame ⊢
  match filtered with
  | [] => exact Nat.zero_le 1
  | [_] => exact Nat.le_refl 1
  | f :: g :: rest =>
    have hf := hSame f List.mem_cons_self
    have hg := hSame g (List.mem_cons_of_mem f List.mem_cons_self)
    have hDiffer := (List.pairwise_cons.mp hPairwise).1 g List.mem_cons_self
    exact absurd (Disk.Path.same_iff.mpr (hf.trans hg.symm)) hDiffer

section Units

variable {units indexes : List GeneratedFile} (hUnits : ∀ f ∈ units, ∃ directory name, GoesDown f directory name)

include hUnits

theorem lists_units {d : List Component} {x : String} :
    Lists (listingOf (units.map (·.path))) d x ↔
      ∃ f ∈ units, ∃ directory name, GoesDown f directory name ∧
        ∃ above, d = above.map .name ∧ above ++ [x] <+: directory ++ [name] := by
  have hFiles : ∀ path ∈ units.map (·.path), ∃ directory name, IsModuleFile path directory name := by
    intro path hPath
    obtain ⟨f, hf, rfl⟩ := List.mem_map.mp hPath
    obtain ⟨directory, name, hDown⟩ := hUnits f hf
    exact ⟨_, _, hDown.file⟩
  have hWay (directory : List String) (name : String) :
      directory.map Component.name ++ [.name name] = (directory ++ [name]).map .name := by simp
  rw [lists_listingOf hFiles]
  constructor
  · rintro ⟨path, hPath, components, other, hOther, hPasses⟩
    obtain ⟨f, hf, rfl⟩ := List.mem_map.mp hPath
    obtain ⟨directory, name, hDown⟩ := hUnits f hf
    obtain ⟨rfl, rfl⟩ := hOther.unique hDown.file
    rw [hWay, passes_names] at hPasses
    exact ⟨f, hf, directory, other, hDown, hPasses⟩
  · rintro ⟨f, hf, directory, name, hDown, hPasses⟩
    refine ⟨f.path, List.mem_map_of_mem hf, _, name, hDown.file, ?_⟩
    rw [hWay, passes_names]
    exact hPasses

theorem exists_indexes : ∃ indexes, indexFiles units = .ok indexes := by
  refine exists_indexFiles fun d x hLists => ?_
  obtain ⟨f, hf, directory, name, hDown, above, _, hPrefix⟩ := (lists_units hUnits).mp hLists
  exact hDown.identifiers x (hPrefix.subset (List.mem_append_right above List.mem_cons_self))

theorem filter_units (directory : List Component) :
    (units.filter fun f => IsIndexFile f.path directory) = [] := by
  refine List.filter_eq_nil_iff.mpr fun f hf => ?_
  obtain ⟨_, _, hDown⟩ := hUnits f hf
  rw [decide_eq_true_eq]
  exact not_isIndexFile hDown.file hDown.notIndex

variable (hIndexes : indexFiles units = .ok indexes)

include hIndexes

theorem exists_declaring {f : GeneratedFile} (hf : f ∈ units) {directory : List String} {name : String}
    (hDown : GoesDown f directory name) {above : List String} {x : String}
    (hPrefix : above ++ [x] <+: directory ++ [name]) :
    ∃ g ∈ indexes, IsIndexFile g.path (above.map .name) ∧ x ∈ Code.declaredModules g.content := by
  have hLists : Lists (listingOf (units.map (·.path))) (above.map .name) x :=
    (lists_units hUnits).mpr ⟨f, hf, directory, name, hDown, above, rfl, hPrefix⟩
  obtain ⟨g, hg, hIndex⟩ := (indexed_indexFiles hIndexes).exists_index hLists
  obtain ⟨d, hOther, _, hDeclared⟩ := (indexed_indexFiles hIndexes).declares hg
  obtain ⟨rfl, _⟩ := List.append_inj' (hIndex.symm.trans hOther) rfl
  exact ⟨g, hg, hIndex, (hDeclared x).mpr hLists⟩

theorem exists_unit_of_declared {g : GeneratedFile} (hg : g ∈ indexes) {directory : List String}
    (hPath : IsIndexFile g.path (directory.map .name)) {x : String} (hx : x ∈ Code.declaredModules g.content) :
    ∃ f ∈ units, ∃ way name, GoesDown f way name ∧ directory ++ [x] <+: way ++ [name] := by
  obtain ⟨d, hOther, _, hDeclared⟩ := (indexed_indexFiles hIndexes).declares hg
  obtain ⟨rfl, _⟩ := List.append_inj' (hPath.symm.trans hOther) rfl
  obtain ⟨f, hf, way, name, hDown, above, hAbove, hPrefix⟩ := (lists_units hUnits).mp ((hDeclared x).mp hx)
  rw [Disk.Path.names_map_inj] at hAbove
  exact ⟨f, hf, way, name, hDown, hAbove ▸ hPrefix⟩

theorem reaches_units {files : List GeneratedFile} (hFiles : ∀ g ∈ indexes, g ∈ files) {f : GeneratedFile}
    (hf : f ∈ units) {directory : List String} {name : String} (hDown : GoesDown f directory name)
    {above : List String} (hPrefix : above <+: directory ++ [name]) : Reaches files above := by
  -- From the top down: each part of the way is declared by the index of the parts before it.
  induction above using List.reverseRecOn with
  | nil => exact .top
  | append_singleton above x ih =>
    obtain ⟨g, hg, hIndex, hDeclared⟩ := exists_declaring hUnits hIndexes hf hDown hPrefix
    exact .down (ih ((List.prefix_append above [x]).trans hPrefix)) (hFiles g hg) hIndex hDeclared

theorem length_filter_index {f : GeneratedFile} (hf : f ∈ units) {directory : List String} {name : String}
    (hDown : GoesDown f directory name) {above : List String} (hPrefix : above <+: directory) :
    (indexes.filter fun f => IsIndexFile f.path (above.map .name)).length = 1 := by
  obtain ⟨x, hNext⟩ := exists_next hPrefix name
  obtain ⟨g, hg, hPath, _⟩ := exists_declaring hUnits hIndexes hf hDown hNext
  have hPositive : 0 < (indexes.filter fun f => IsIndexFile f.path (above.map .name)).length :=
    List.length_pos_of_mem (List.mem_filter.mpr ⟨hg, decide_eq_true hPath⟩)
  exact Nat.le_antisymm (length_filter_isIndexFile hIndexes _) hPositive

omit hUnits in
theorem kind_indexFile {g : GeneratedFile} (hg : g ∈ indexes) : g.kind = .moduleIndex := by
  obtain ⟨entry, _, hEntry⟩ := Results.exists_of_mem (Results.mapM_eq_ok.mp hIndexes) hg
  exact (indexFile_eq_ok hEntry).2

theorem exists_unit_below {g : GeneratedFile} (hg : g ∈ indexes) :
    ∃ directory, IsIndexFile g.path (directory.map .name) ∧
      ∃ f ∈ units, ∃ below name, GoesDown f (directory ++ below) name := by
  obtain ⟨d, hPath, ⟨x, hx⟩, _⟩ := (indexed_indexFiles hIndexes).declares hg
  obtain ⟨f, hf, way, name, hDown, directory, rfl, hPrefix⟩ := (lists_units hUnits).mp hx
  have hAbove : directory <+: way := by
    rcases List.prefix_concat_iff.mp hPrefix with hSame | hPrefix
    · exact (List.append_inj' hSame rfl).1 ▸ List.prefix_refl directory
    · exact (List.prefix_append directory [x]).trans hPrefix
  obtain ⟨below, rfl⟩ := hAbove
  exact ⟨directory, hPath, f, hf, below, name, hDown⟩

theorem unit_or_index_of_declared {g : GeneratedFile} (hg : g ∈ indexes) {directory : List String}
    (hPath : IsIndexFile g.path (directory.map .name)) {x : String} (hx : x ∈ Code.declaredModules g.content) :
    (∃ f ∈ units, GoesDown f directory x) ∨
      ∃ other ∈ indexes, IsIndexFile other.path ((directory ++ [x]).map .name) := by
  obtain ⟨f, hf, way, name, hDown, hPrefix⟩ := exists_unit_of_declared hUnits hIndexes hg hPath hx
  rcases List.prefix_concat_iff.mp hPrefix with hSame | hPrefix
  · obtain ⟨rfl, hLast⟩ := List.append_inj' hSame rfl
    cases hLast
    exact .inl ⟨f, hf, hDown⟩
  · obtain ⟨next, hNext⟩ := exists_next hPrefix name
    obtain ⟨other, hOther, hOtherPath, _⟩ := exists_declaring hUnits hIndexes hf hDown hNext
    exact .inr ⟨other, hOther, hOtherPath⟩

theorem moduleTree_of_indexFiles {files : List GeneratedFile} (hFiles : files.Perm (units ++ indexes)) :
    ModuleTree files := by
  have hUnit : ∀ f ∈ units, f ∈ files := fun f hf => hFiles.mem_iff.mpr (List.mem_append_left _ hf)
  have hIndex : ∀ g ∈ indexes, g ∈ files := fun g hg => hFiles.mem_iff.mpr (List.mem_append_right _ hg)
  have hSplit : ∀ f ∈ files, f ∈ units ∨ f ∈ indexes := fun f hf => List.mem_append.mp (hFiles.mem_iff.mp hf)
  constructor
  case reached =>
    intro f hf hNotIndex
    rcases hSplit f hf with hf | hf
    · obtain ⟨directory, name, hDown⟩ := hUnits f hf
      exact ⟨directory, name, hDown.file, reaches_units hUnits hIndexes hIndex hf hDown (List.prefix_refl _)⟩
    · exact absurd (kind_indexFile hIndexes hf) hNotIndex
  case single =>
    rintro directory below name ⟨f, hf, hNotIndex, hFile⟩
    rcases hSplit f hf with hf | hf
    · obtain ⟨way, other, hDown⟩ := hUnits f hf
      obtain ⟨hWay, rfl⟩ := hDown.file.unique hFile
      rw [Disk.Path.names_map_inj] at hWay
      subst hWay
      rw [(hFiles.filter _).length_eq, List.filter_append, filter_units hUnits, List.nil_append]
      exact length_filter_index hUnits hIndexes hf hDown (List.prefix_append directory below)
    · exact absurd (kind_indexFile hIndexes hf) hNotIndex
  case only =>
    intro f hf hIndexed
    rcases hSplit f hf with hf | hf
    · obtain ⟨_, _, hDown⟩ := hUnits f hf
      rcases hIndexed with hModuleIndex | ⟨_, hPath⟩
      · exact absurd hModuleIndex hDown.kind
      · exact absurd hPath (not_isIndexFile hDown.file hDown.notIndex)
    · obtain ⟨directory, hPath, g, hg, below, name, hDown⟩ := exists_unit_below hUnits hIndexes hf
      exact ⟨directory, hPath, below, name, g, hUnit g hg, hDown.kind, hDown.file⟩
  case closed =>
    intro g hg directory hPath x hx
    rcases hSplit g hg with hg | hg
    · obtain ⟨_, _, hDown⟩ := hUnits g hg
      exact absurd hPath (not_isIndexFile hDown.file hDown.notIndex)
    · rcases unit_or_index_of_declared hUnits hIndexes hg hPath hx with ⟨f, hf, hDown⟩ | ⟨other, hOther, hOtherPath⟩
      · exact .inl ⟨f, hUnit f hf, hDown.kind, hDown.file⟩
      · exact .inr ⟨other, hIndex other hOther, kind_indexFile hIndexes hOther, hOtherPath⟩

end Units

theorem Generated.goesDown {catalog : Schema.Catalog} {options : Options} {index : Index} {d : Source.Declaration}
    {output : TableOutput} (h : Generated catalog options index d output) (hModule : IsModulePath d.moduleName)
    {f : GeneratedFile} (hf : f ∈ output.files) : ∃ directory name, GoesDown f directory name := by
  obtain ⟨kind, hKind, hPath, hFileKind⟩ := h.mem_files hf
  obtain ⟨directory, hDirectory, hNames⟩ := hModule.exists_goesBy
  have hNotIndex : kind ≠ .moduleIndex := kind_of_mem_unitKinds hKind
  refine ⟨directory, stemOf d.table ++ kind.suffix, ?_, hFileKind ▸ hNotIndex, unitName_ne_mod d.table hNotIndex, ?_⟩
  · rw [hPath, ← show Disk.Path.components (directoryOf d.moduleName) = directory.map .name from hDirectory]
    exact isModuleFile_unitPath d.moduleName d.table kind
  · intro part hPart
    rcases List.mem_append.mp hPart with hPart | hPart
    · exact hNames part hPart
    · rw [List.mem_singleton.mp hPart]
      exact h.ofName?_unit hNotIndex

theorem goesDown_of_mem_unitsOf {catalog : Schema.Catalog} {options : Options} {index : Index}
    (hModules : ∀ d ∈ index.declarations, IsModulePath d.moduleName) :
    ∀ f ∈ unitsOf catalog options index, ∃ directory name, GoesDown f directory name := by
  intro f hf
  obtain ⟨d, hd, output, hGenerated, hf⟩ := exists_generated hf
  exact hGenerated.goesDown (hModules d hd) hf

/-- Where all modules are written with identifiers, climbing from a file to the top comes to an end, there are
indexes and nothing is said against them, and the files are a complete and closed tree of modules. -/
theorem module_tree_complete {catalog : Schema.Catalog} {options : Options} {index : Index}
    (hOption : options.moduleIndex) (hModules : ∀ d ∈ index.declarations, IsModulePath d.moduleName) :
    (∀ f ∈ unitsOf catalog options index,
      ∃ steps ≤ (components (above f.path)).length, fileName? (above^[steps] (above f.path)) = none) ∧
    (∃ indexes, indexFiles (unitsOf catalog options index) = .ok indexes ∧
      (process catalog options index).output.files.Perm (unitsOf catalog options index ++ indexes)) ∧
    (process catalog options index).output.warnings =
      (attempts catalog options index [] index.declarations).flatMap Verdict.warnings ∧
    ModuleTree (process catalog options index).output.files := by
  have hUnits := @goesDown_of_mem_unitsOf catalog options index hModules
  obtain ⟨indexes, hIndexes⟩ := exists_indexes hUnits
  have hFiles : (process catalog options index).output.files.Perm (unitsOf catalog options index ++ indexes) := by
    have hPerm := perm_files catalog options index
    rw [indexesOf, if_pos hOption, hIndexes] at hPerm
    exact hPerm
  have hWarnings : indexWarnings options (unitsOf catalog options index) = [] := by
    rw [indexWarnings, hIndexes]
    split <;> simp_all
  refine ⟨fun f _ => exists_iterate_above _, ⟨indexes, hIndexes, hFiles⟩, ?_, ?_⟩
  · rw [process_output]
    exact List.append_right_eq_self.mpr hWarnings
  · exact moduleTree_of_indexFiles hUnits hIndexes hFiles

/-- Where all modules are written with identifiers, every path of a run only goes down. -/
theorem namesOnly_of_mem_files {catalog : Schema.Catalog} {options : Options} {index : Index}
    (hModules : ∀ d ∈ index.declarations, IsModulePath d.moduleName) {f : GeneratedFile}
    (hf : f ∈ (process catalog options index).output.files) : Disk.Path.NamesOnly f.path := by
  have hUnits := @goesDown_of_mem_unitsOf catalog options index hModules
  have hNames {path name : String} {directory : List String}
      (hPath : components path = directory.map .name ++ [.name name]) : Disk.Path.NamesOnly path := by
    have hGoes : GoesBy path (directory ++ [name]) := by rw [GoesBy, hPath, List.map_append, List.map_singleton]
    exact hGoes.namesOnly
  rcases List.mem_append.mp ((perm_files catalog options index).mem_iff.mp hf) with hUnit | hIndex
  · obtain ⟨directory, name, hDown⟩ := hUnits f hUnit
    exact hNames hDown.file.path
  · obtain ⟨d, hPath, ⟨x, hx⟩, _⟩ := (indexed_indexFiles (indexFiles_eq_indexesOf hIndex)).declares hIndex
    obtain ⟨_, _, _, _, _, directory, rfl, _⟩ := (lists_units hUnits).mp hx
    exact hNames hPath

theorem namesOnly_of_mem_stalePaths {catalog : Schema.Catalog} {options : Options} {index : Index}
    (hModules : ∀ d ∈ index.declarations, IsModulePath d.moduleName) {path : String}
    (h : path ∈ (process catalog options index).stalePaths) : Disk.Path.NamesOnly path := by
  obtain ⟨d, hd, kind, _, hPath⟩ := exists_failed h
  obtain ⟨directory, hDirectory, _⟩ := (hModules d hd).exists_goesBy
  rw [hPath, unitPath_eq]
  exact (hDirectory.join (isName_unit d.table kind).goesBy).namesOnly

def nestedIndex : Index where
  declarations :=
    [⟨"users", "UserFactory", "crate::factories", "factories.rs"⟩,
      ⟨"categories", "CategoryFactory", "crate::r#type::inner", "type/inner.rs"⟩]
  structs := [("CategoriesRecord", ["crate::records"]), ("UsersRecord", ["crate::records"])]

theorem isModulePath_nested : ∀ d ∈ nestedIndex.declarations, IsModulePath d.moduleName := by
  have hFactories : IsModulePath "crate::factories" :=
    ⟨["factories"], ["factories"], rfl, .cons ⟨by decide, .inl rfl⟩ .nil⟩
  have hInner : IsModulePath "crate::r#type::inner" :=
    ⟨["r#type", "inner"], ["type", "inner"], rfl,
      .cons ⟨by decide, .inr rfl⟩ (.cons ⟨by decide, .inl rfl⟩ .nil)⟩
  exact List.forall_mem_cons.mpr ⟨hFactories, List.forall_mem_cons.mpr ⟨hInner, nofun⟩⟩

theorem module_tree_complete_nested :
    ({} : Options).moduleIndex ∧ (∀ d ∈ nestedIndex.declarations, IsModulePath d.moduleName) ∧
      (process Fixtures.catalog {} nestedIndex).tables = ["users", "categories"] ∧
      ModuleTree (process Fixtures.catalog {} nestedIndex).output.files := by
  obtain ⟨_, _, _, hTree⟩ := @module_tree_complete Fixtures.catalog {} nestedIndex rfl isModulePath_nested
  exact ⟨rfl, isModulePath_nested, by decide +kernel, hTree⟩

end RowFactory.Generation
