import Mathlib.Data.List.Pairwise
import RowFactory.Proofs.Disk.Changes

/-! # Files below a directory

The path that leads from a directory to a file below it can be put behind that of the directory. Trees with the same
entries of a kind have them in the same order.
-/

namespace RowFactory.Disk

namespace Path

theorem exists_toList_join (directory path : String) :
    ∃ above, (join directory path).toList = above ++ path.toList := by
  rw [join]
  split
  · exact ⟨[], rfl⟩
  · split
    · exact ⟨directory.toList, String.toList_append⟩
    · exact ⟨(directory ++ "/").toList, String.toList_append⟩

end Path

theorem not_endsInDirectory {path name : String} (hName : Path.IsName name) {above : List Char}
    (hPath : path.toList = above ++ name.toList) : ¬ endsInDirectory path := by
  obtain ⟨hSlash, hPoints⟩ := hName
  rcases name.toList.eq_nil_or_concat' with hNil | ⟨front, last, hLast⟩
  · rw [hNil] at hPoints
    exact absurd List.mem_cons_self hPoints
  · rw [hLast] at hSlash hPoints hPath
    rw [endsInDirectory, hPath]
    rcases front.eq_nil_or_concat' with rfl | ⟨front, c, rfl⟩
    · have hNoSlash : last ≠ '/' := by
        rintro rfl
        exact hSlash List.mem_cons_self
      have hNoPoint : last ≠ '.' := by
        rintro rfl
        exact hPoints (by simp)
      simp [hNoSlash, hNoPoint]
    · have hNoSlash : last ≠ '/' ∧ c ≠ '/' := by
        constructor <;> rintro rfl <;> exact hSlash (by simp)
      simp [hNoSlash.1, hNoSlash.2]

namespace Tree

variable {t : Tree}

theorem follow_append (place : Place) (path others : List Component) :
    t.follow place (path ++ others) = (t.follow place path).bind fun next => t.follow next others := by
  induction path generalizing place with
  | nil => rfl
  | cons c rest ih =>
    rw [List.cons_append, follow, follow]
    split
    · exact ih _
    · rfl

theorem Sound.follow_names (h : t.Sound) {place names : Place} {node : Node}
    (hNode : t.node? (place ++ names) = some node) : t.follow place (names.map .name) = some (place ++ names) := by
  induction names generalizing place with
  | nil => rw [List.append_nil]; rfl
  | cons name rest ih =>
    have hDirectory := h.directory_of_below (List.cons_ne_nil name rest) hNode
    have hMem := (h.node?_eq_some_iff (by simp)).mp hNode
    have hName := (h.named _ hMem).2 name (List.mem_append_right place List.mem_cons_self)
    rw [List.append_cons place name rest] at hNode ⊢
    rw [List.map_cons, follow, if_pos ⟨hDirectory, hName.2⟩, step]
    exact ih hNode

/-- The names below a directory that lead to a file make up a path to it. -/
theorem Sound.nodeAt?_join (h : t.Sound) {directory : String} {place names : Place} {content : Content}
    (hLocate : t.locate directory = some place) (hPlace : t.node? place = some .directory)
    (hFile : t.node? (place ++ names) = some (.file content)) :
    t.nodeAt? (Path.join directory (Path.ofParts names)) = some (.file content) := by
  rcases names.eq_nil_or_concat' with rfl | ⟨front, last, rfl⟩
  · rw [List.append_nil, hPlace] at hFile
    cases hFile
  · have hMem := (h.node?_eq_some_iff (by simp)).mp hFile
    have hNames : ∀ name ∈ front ++ [last], Path.IsName name := fun name hName =>
      ((h.named _ hMem).2 name (List.mem_append_right place hName)).1
    have hGoes := Path.goesBy_ofParts hNames
    have hLast := hNames last (List.mem_append_right front List.mem_cons_self)
    obtain ⟨above, hAbove⟩ := Path.exists_toList_join (Path.ofParts front) last
    rw [← Path.ofParts_append_singleton] at hAbove
    obtain ⟨before, hBefore⟩ := Path.exists_toList_join directory (Path.ofParts (front ++ [last]))
    rw [hAbove, ← List.append_assoc] at hBefore
    have hNonempty : Path.join directory (Path.ofParts (front ++ [last])) ≠ "" := by
      intro hEmpty
      rw [hEmpty] at hBefore
      have hNil := (List.append_eq_nil_iff.mp hBefore.symm).2
      exact hLast.noPoints (hNil ▸ List.mem_cons_self)
    have hFollow : t.locate (Path.join directory (Path.ofParts (front ++ [last]))) =
        some (place ++ (front ++ [last])) := by
      refine locate_eq_some_iff.mpr ⟨hNonempty, ?_⟩
      rw [hGoes.namesOnly.components_join, follow_append, (locate_eq_some_iff.mp hLocate).2, hGoes]
      exact h.follow_names hFile
    rw [nodeAt?, hFollow]
    simp [hFile, not_endsInDirectory hLast hBefore]

/-- Entries that two trees share stand in the same order. -/
theorem Sound.filter_eq {changed : Tree} (h : t.Sound) (hChanged : changed.Sound) {keep : Place × Node → Bool}
    (hSame : ∀ entry, keep entry → (entry ∈ t.nodes ↔ entry ∈ changed.nodes)) :
    t.nodes.filter keep = changed.nodes.filter keep := by
  have hNodup {tree : Tree} (hTree : tree.Sound) : (tree.nodes.filter keep).Nodup :=
    (hTree.ascending.imp fun {a b} hLess hEq => absurd (hEq ▸ hLess) (lt_irrefl _)).filter keep
  have hPerm : (t.nodes.filter keep).Perm (changed.nodes.filter keep) := by
    refine (List.perm_ext_iff_of_nodup (hNodup h) (hNodup hChanged)).mpr fun entry => ?_
    rw [List.mem_filter, List.mem_filter]
    constructor
    · rintro ⟨hMem, hKeep⟩
      exact ⟨(hSame entry hKeep).mp hMem, hKeep⟩
    · rintro ⟨hMem, hKeep⟩
      exact ⟨(hSame entry hKeep).mpr hMem, hKeep⟩
  refine hPerm.eq_of_pairwise (fun a b _ _ hLess hGreater => ?_) (h.ascending.filter keep)
    (hChanged.ascending.filter keep)
  exact absurd hGreater (lt_asymm hLess)

end Tree

end RowFactory.Disk
