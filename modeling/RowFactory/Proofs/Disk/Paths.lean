import Mathlib.Data.List.Lex
import Mathlib.Data.Prod.Lex
import Mathlib.Data.String.Basic
import RowFactory.Disk.Path

/-! # Components of paths

Paths are ordered and compared by their components alone, and a path below a directory has the components of
both.
-/

namespace RowFactory.Disk

namespace Component

def key : Component → Nat ×ₗ String
  | .name text => toLex (3, text)
  | c => toLex (c.rank, "")

theorem key_injective : Function.Injective key := by
  intro a b h
  cases a <;> cases b <;> simp_all [key, rank]

theorem before_iff {a b : Component} : a.before b ↔ a.key < b.key := by
  cases a <;> cases b <;> simp [before, key, rank, Prod.Lex.toLex_lt_toLex]

end Component

namespace Path

theorem componentsBefore_iff {a b : List Component} :
    componentsBefore a b ↔ a.map Component.key < b.map Component.key := by
  induction a generalizing b with
  | nil => cases b <;> simp [componentsBefore]
  | cons c rest ih =>
    cases b with
    | nil => simp [componentsBefore]
    | cons d others =>
      rw [componentsBefore, List.map_cons, List.map_cons, List.cons_lt_cons_iff]
      simp [Component.before_iff, ih, Component.key_injective.eq_iff]

def key (path : String) : List (Nat ×ₗ String) := (components path).map Component.key

theorem before_iff {a b : String} : before a b ↔ key a < key b := componentsBefore_iff

theorem same_iff {a b : String} : same a b ↔ components a = components b := decide_eq_true_iff

theorem same_iff_key {a b : String} : same a b ↔ key a = key b := by
  rw [same_iff, key, key, Component.key_injective.list_map.eq_iff]

theorem not_same_symm {a b : String} (h : ¬ same a b) : ¬ same b a := by
  rw [same_iff] at h ⊢
  exact Ne.symm h

theorem le_iff {a b : String} : le a b ↔ key a ≤ key b := by
  rw [le, Bool.not_eq_true', ← Bool.not_eq_true, before_iff, not_lt]

theorem before_trans {a b c : String} (h : before a b) (hNext : before b c) : before a c :=
  before_iff.mpr (lt_trans (before_iff.mp h) (before_iff.mp hNext))

theorem before_of_not {a b : String} (hSame : ¬ same a b) (hBefore : ¬ before a b) : before b a := by
  rw [same_iff_key] at hSame
  rw [before_iff] at hBefore ⊢
  exact lt_of_le_of_ne (not_lt.mp hBefore) (Ne.symm hSame)

theorem not_same_of_before {a b : String} (h : before a b) : ¬ same a b := by
  rw [before_iff] at h
  rw [same_iff_key]
  exact ne_of_lt h

theorem pieces_append (piece left right : List Char) :
    pieces piece (left ++ '/' :: right) = pieces piece left ++ pieces [] right := by
  fun_induction pieces piece left with
  | case1 piece => rw [List.nil_append, pieces, List.singleton_append]
  | case2 piece rest ih => rw [List.cons_append, pieces, ih, List.cons_append]
  | case3 piece c rest hSlash ih =>
    rw [List.cons_append, pieces, ih]
    exact hSlash

theorem pieces_ne_nil (piece text : List Char) : pieces piece text ≠ [] := by
  fun_induction pieces piece text <;> simp_all

theorem pieces_of_no_slash {piece text : List Char} (h : '/' ∉ text) :
    pieces piece text = [piece.reverse ++ text] := by
  fun_induction pieces piece text with
  | case1 piece => rw [List.append_nil]
  | case2 piece rest ih => simp at h
  | case3 piece c rest hSlash ih =>
    rw [ih fun hRest => h (List.mem_cons_of_mem c hRest), List.reverse_cons, List.append_assoc,
      List.singleton_append]

/-- The components of pieces, of which the first one begins the path. -/
def componentsOf : List (List Char) → List Component
  | [] => []
  | first :: rest => (component? true first).toList ++ rest.filterMap (component? false)

theorem components_eq (path : String) :
    components path = (if isAbsolute path then [.root] else []) ++ componentsOf (pieces [] path.toList) := by
  rw [components]
  cases isAbsolute path <;> cases pieces [] path.toList <;> rfl

theorem componentsOf_append {first : List (List Char)} (h : first ≠ []) (second : List (List Char)) :
    componentsOf (first ++ second) = componentsOf first ++ second.filterMap (component? false) := by
  cases first with
  | nil => exact absurd rfl h
  | cons piece rest => rw [List.cons_append, componentsOf, componentsOf, List.filterMap_append, List.append_assoc]

/-- Only a point at the very beginning makes a difference. -/
theorem componentsOf_eq_filterMap {list : List (List Char)} (h : (componentsOf list).head? ≠ some .current) :
    componentsOf list = list.filterMap (component? false) := by
  cases list with
  | nil => rfl
  | cons first rest =>
    rw [componentsOf] at h ⊢
    rw [List.filterMap_cons]
    fun_cases component? true first <;> simp_all [component?]

theorem components_of_slash {path : String} {text : List Char} (h : path.toList = text ++ ['/']) :
    components path =
      (if (text ++ ['/']).head? = some '/' then [.root] else []) ++ componentsOf (pieces [] text) := by
  have hPieces : componentsOf (pieces [] (text ++ ['/'])) = componentsOf (pieces [] text) := by
    rw [pieces_append, componentsOf_append (pieces_ne_nil [] text)]
    exact List.append_nil _
  rw [components_eq, isAbsolute, h, hPieces]
  simp only [decide_eq_true_eq]

theorem head?_append_slash (text rest : List Char) : (text ++ '/' :: rest).head? = (text ++ ['/']).head? := by
  cases text <;> rfl

theorem components_append_slash {path relative : String} {text : List Char}
    (hPath : path.toList = text ++ '/' :: relative.toList) (hRelative : ¬ isAbsolute relative)
    (hHead : (components relative).head? ≠ some .current) :
    components path =
      (if (text ++ ['/']).head? = some '/' then [.root] else []) ++ componentsOf (pieces [] text) ++
        components relative := by
  have hComponents : components relative = componentsOf (pieces [] relative.toList) := by
    rw [components_eq, if_neg hRelative, List.nil_append]
  rw [hComponents] at hHead ⊢
  rw [components_eq, isAbsolute, hPath, head?_append_slash, pieces_append,
    componentsOf_append (pieces_ne_nil [] text), ← componentsOf_eq_filterMap hHead, List.append_assoc]
  simp only [decide_eq_true_eq]

theorem components_join (directory : String) {path : String} (hRelative : ¬ isAbsolute path)
    (hHead : (components path).head? ≠ some .current) :
    components (join directory path) = components directory ++ components path := by
  rw [join, if_neg hRelative]
  by_cases hEmpty : directory = ""
  · subst hEmpty
    rfl
  · by_cases hSlash : directory.toList.getLast? = some '/'
    · obtain ⟨text, hText⟩ := List.getLast?_eq_some_iff.mp hSlash
      rw [if_pos (by simp [hSlash]), components_of_slash hText]
      exact components_append_slash (by simp [hText]) hRelative hHead
    · have hDirectory : directory.toList ≠ [] := by simpa using hEmpty
      have hHeads : (directory.toList ++ ['/']).head? = directory.toList.head? :=
        List.head?_append_of_ne_nil _ hDirectory
      rw [if_neg (by simp [hEmpty, hSlash]), components_eq directory, isAbsolute, ← hHeads]
      simp only [decide_eq_true_eq]
      exact components_append_slash (by simp) hRelative hHead

/-- A text that is one component, and a name. -/
structure IsName (text : String) : Prop where
  noSlash : '/' ∉ text.toList
  noPoints : text.toList ∉ [[], ['.'], ['.', '.']]

theorem component?_of_noPoints {piece : List Char} (h : piece ∉ [[], ['.'], ['.', '.']]) (first : Bool) :
    component? first piece = some (.name (String.ofList piece)) := by
  fun_cases component? first piece <;> simp_all

theorem IsName.components_eq {text : String} (h : IsName text) : components text = [.name text] := by
  have hHead : text.toList.head? ≠ some '/' := fun hSlash => h.noSlash (List.mem_of_head? hSlash)
  rw [Path.components_eq, isAbsolute, pieces_of_no_slash h.noSlash, componentsOf, List.reverse_nil,
    List.nil_append, component?_of_noPoints h.noPoints, String.ofList_toList]
  simp [hHead]

theorem components_join_name (directory : String) {name : String} (h : IsName name) :
    components (join directory name) = components directory ++ [.name name] := by
  have hRelative : ¬ isAbsolute name := by
    simp only [isAbsolute, decide_eq_true_eq]
    exact fun hSlash => h.noSlash (List.mem_of_head? hSlash)
  rw [components_join directory hRelative, h.components_eq]
  simp [h.components_eq]

theorem same_join_iff {directory other : String} {name otherName : String} (h : IsName name)
    (hOther : IsName otherName) :
    same (join directory name) (join other otherName) ↔ same directory other ∧ name = otherName := by
  rw [same_iff, same_iff, components_join_name directory h, components_join_name other hOther,
    ← List.concat_eq_append, ← List.concat_eq_append, List.concat_inj, Component.name.injEq]

/-- A path that only goes down. -/
def NamesOnly (path : String) : Prop := ∀ c ∈ components path, ∃ name, c = .name name

theorem NamesOnly.components_join {path : String} (h : NamesOnly path) (directory : String) :
    components (join directory path) = components directory ++ components path := by
  apply Path.components_join
  · intro hAbsolute
    rw [NamesOnly, components_eq, if_pos hAbsolute] at h
    obtain ⟨name, hName⟩ := h .root List.mem_cons_self
    cases hName
  · intro hCurrent
    obtain ⟨name, hName⟩ := h .current (List.mem_of_head? hCurrent)
    cases hName

def names (path : String) : List String := (components path).map Component.text

theorem NamesOnly.components_eq {path : String} (h : NamesOnly path) :
    components path = (names path).map .name := by
  have hNames : ∀ c ∈ components path, (Component.name ∘ Component.text) c = c := by
    intro c hc
    obtain ⟨name, rfl⟩ := h c hc
    rfl
  rw [names, List.map_map, List.map_congr_left hNames, List.map_id']

theorem NamesOnly.names_inj {path other : String} (h : NamesOnly path) (hOther : NamesOnly other) :
    names path = names other ↔ same path other := by
  rw [same_iff, h.components_eq, hOther.components_eq, List.map_inj_right]
  exact fun _ _ => Component.name.inj

end Path

end RowFactory.Disk
