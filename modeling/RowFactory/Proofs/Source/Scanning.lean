import RowFactory.Proofs.Disk.Entries
import RowFactory.Proofs.Disk.Runs
import RowFactory.Source.Directory

/-! # What a scan depends on

A scan leaves the disk alone, and what it finds is told by the source files below its directory that were not
generated.
-/

namespace RowFactory.Source

open Disk (Content Node Place Tree run_bind_of_error run_bind_of_ok run_filesBelow run_isDirectory run_readText)
open Disk.Path (join ofParts)
open Disk.Tree (Keeps)

def isGeneratedContent : Content → Bool
  | .text text => isGenerated text
  | .bytes _ => false

def pathBelow (place p : Place) : String := ofParts (p.drop place.length)

/-- An entry is a source file below the place that was not generated. -/
def isScanned (place : Place) : Place × Node → Bool
  | (p, .file content) => place.isPrefixOf p && isSourceFile (pathBelow place p) && !isGeneratedContent content
  | (_, .directory) => false

def Index.addEntry (directory : String) (place : Place) (index : Index) : Place × Node → Except Error Index
  | (p, .file (.text text)) =>
    match index.addSource (moduleOfFile (pathBelow place p)) (join directory (pathBelow place p)) text with
    | (index, none) => .ok index
    | (_, some error) => .error error
  | (p, .file (.bytes _)) => .error (.fileRead (join directory (pathBelow place p)) (.system "the file holds no text"))
  | (_, .directory) => .ok index

/-- The index that the source files below a place make up. -/
def indexBelow (t : Tree) (directory : String) (place : Place) : Except Error Index :=
  (t.nodes.filter (isScanned place)).foldlM (Index.addEntry directory place) {}

theorem filesBelow_cons_file (p : Place) (content : Content) (rest : List (Place × Node)) (home place : Place) :
    Tree.filesBelow ⟨(p, .file content) :: rest, home⟩ place =
      (if place.isPrefixOf p then [pathBelow place p] else []) ++ Tree.filesBelow ⟨rest, home⟩ place := by
  rw [Tree.filesBelow, List.filterMap_cons]
  by_cases hBelow : place.isPrefixOf p
  · simp only [Tree.namesBelow?, hBelow, if_true]
    rfl
  · simp only [Tree.namesBelow?, hBelow, Bool.false_eq_true, if_false]
    rfl

section Scan

variable {t changed : Tree} {directory : String} {place : Place} (hSound : t.Sound)
  (hLocate : t.locate directory = some place) (hPlace : t.node? place = some .directory)

include hSound hLocate hPlace

theorem run_addFile {p : Place} {content : Content} (hMem : (p, .file content) ∈ t.nodes) (hBelow : place.isPrefixOf p)
    (index : Index) :
    (index.addFile (m := StateM Tree) directory (pathBelow place p)).run t =
      (if isGeneratedContent content then .ok index else index.addEntry directory place (p, .file content), t) := by
  obtain ⟨names, rfl⟩ := List.isPrefixOf_iff_prefix.mp hBelow
  have hFile := (hSound.node?_eq_some_iff (hSound.named _ hMem).1).mpr hMem
  have hAt : t.nodeAt? (join directory (pathBelow place (place ++ names))) = some (.file content) := by
    rw [pathBelow, List.drop_left]
    exact hSound.nodeAt?_join hLocate hPlace hFile
  rw [Index.addFile, run_readText, Tree.readText, hAt]
  cases content with
  | bytes bytes => rfl
  | text text =>
    by_cases hGenerated : isGenerated text
    · have hContent : isGeneratedContent (.text text) := hGenerated
      rw [if_pos hContent]
      simp only [if_pos hGenerated]
      rfl
    · have hContent : ¬ isGeneratedContent (.text text) := hGenerated
      rw [if_neg hContent]
      unfold Index.addEntry
      simp only [if_neg hGenerated]
      rcases index.addSource _ _ text with ⟨next, _ | _⟩ <;> rfl

theorem run_addFiles {nodes : List (Place × Node)} (hNodes : ∀ entry ∈ nodes, entry ∈ t.nodes) (index : Index) :
    (((Tree.filesBelow ⟨nodes, t.home⟩ place).filter isSourceFile).foldlM
        (fun index path => Index.addFile (m := StateM Tree) index directory path) index).run t =
      ((nodes.filter (isScanned place)).foldlM (Index.addEntry directory place) index, t) := by
  induction nodes generalizing index with
  | nil => rfl
  | cons entry rest ih =>
    have hRest := ih fun entry hEntry => hNodes entry (List.mem_cons_of_mem _ hEntry)
    obtain ⟨p, _ | content⟩ := entry
    · exact hRest index
    · rw [filesBelow_cons_file, List.filter_append, List.filter_cons]
      by_cases hBelow : place.isPrefixOf p
      · by_cases hSource : isSourceFile (pathBelow place p)
        · have hAdd := run_addFile hSound hLocate hPlace (hNodes _ List.mem_cons_self) hBelow index
          simp only [hBelow, if_true, List.filter_cons, hSource, List.filter_nil, List.singleton_append,
            List.foldlM_cons, isScanned, Bool.true_and]
          by_cases hGenerated : isGeneratedContent content
          · rw [if_pos hGenerated] at hAdd
            rw [run_bind_of_ok hAdd, hGenerated]
            exact hRest index
          · rw [if_neg hGenerated] at hAdd
            simp only [hGenerated, Bool.not_false, if_true, List.foldlM_cons]
            cases hEntry : index.addEntry directory place (p, .file content) with
            | error e =>
              rw [hEntry] at hAdd
              exact run_bind_of_error hAdd
            | ok next =>
              rw [hEntry] at hAdd
              exact (run_bind_of_ok hAdd).trans (hRest next)
        · simp only [hBelow, if_true, List.filter_cons, hSource, Bool.false_eq_true, if_false, List.filter_nil,
            List.nil_append, isScanned, Bool.and_false, Bool.false_and]
          exact hRest index
      · simp only [hBelow, Bool.false_eq_true, if_false, List.filter_nil, List.nil_append, isScanned, Bool.false_and]
        exact hRest index

theorem run_ofDirectory (hDirectory : t.nodeAt? directory = some .directory) :
    (Index.ofDirectory (m := StateM Tree) directory).run t = (indexBelow t directory place, t) := by
  rw [Index.ofDirectory, run_isDirectory, hDirectory]
  simp only [decide_true, Bool.not_true, Bool.false_eq_true, if_false]
  rw [run_filesBelow hLocate]
  exact run_addFiles hSound hLocate hPlace (fun _ hEntry => hEntry) {}

end Scan

theorem isDirectory_of_run {t changed : Tree} {directory : String} {index : Index}
    (h : (Index.ofDirectory (m := StateM Tree) directory).run t = (.ok index, changed)) :
    t.nodeAt? directory = some .directory ∧
      ∃ place, t.locate directory = some place ∧ t.node? place = some .directory := by
  have hDirectory : t.nodeAt? directory = some .directory := by
    rw [Index.ofDirectory, run_isDirectory] at h
    by_contra hElse
    simp only [hElse, decide_false, Bool.not_false, if_true] at h
    cases h
  refine ⟨hDirectory, ?_⟩
  rw [Tree.nodeAt?] at hDirectory
  cases hLocate : t.locate directory with
  | none =>
    rw [hLocate] at hDirectory
    cases hDirectory
  | some place =>
    rw [hLocate] at hDirectory
    refine ⟨place, rfl, ?_⟩
    rcases hNode : t.node? place with _ | _ | content <;> simp_all

/-- A tree in which directories are kept, and all files that were not generated, gives the same index. -/
theorem run_ofDirectory_of_same {t changed before : Tree} {changing : Place → Prop} {directory : String} {index : Index}
    (hSound : t.Sound) (hChanged : changed.Sound) (hKeeps : Keeps changing t changed)
    (hSame : ∀ p content, ¬ isGeneratedContent content →
      (t.node? p = some (.file content) ↔ changed.node? p = some (.file content)))
    (h : (Index.ofDirectory (m := StateM Tree) directory).run t = (.ok index, before)) :
    (Index.ofDirectory (m := StateM Tree) directory).run changed = (.ok index, changed) := by
  obtain ⟨hDirectory, place, hLocate, hPlace⟩ := isDirectory_of_run h
  rw [run_ofDirectory hSound hLocate hPlace hDirectory] at h
  have hChangedPlace := hKeeps.directory place hPlace
  have hChangedLocate := hKeeps.locate hLocate
  have hChangedDirectory : changed.nodeAt? directory = some .directory := by
    rw [Tree.nodeAt?, hChangedLocate]
    simp [hChangedPlace]
  have hEntries : t.nodes.filter (isScanned place) = changed.nodes.filter (isScanned place) := by
    refine hSound.filter_eq hChanged fun entry hScanned => ?_
    obtain ⟨p, _ | content⟩ := entry
    · cases hScanned
    · have hGenerated : ¬ isGeneratedContent content := by
        simp only [isScanned, Bool.and_eq_true, Bool.not_eq_true'] at hScanned
        simp [hScanned.2]
      by_cases hTop : p = []
      · subst hTop
        exact ⟨fun hMem => absurd rfl (hSound.named _ hMem).1, fun hMem => absurd rfl (hChanged.named _ hMem).1⟩
      · rw [← hSound.node?_eq_some_iff hTop, ← hChanged.node?_eq_some_iff hTop]
        exact hSame p content hGenerated
  rw [run_ofDirectory hChanged hChangedLocate hChangedPlace hChangedDirectory, indexBelow, ← hEntries, ← indexBelow,
    (Prod.mk.inj h).1]

end RowFactory.Source
