import RowFactory.Disk.Tree
import RowFactory.Proofs.Ascending
import RowFactory.Proofs.Disk.Paths

/-! # Changes of a disk

A change keeps what it does not name: directories stay, and files stay as they are at every other place. What
is written can be read back.
-/

namespace RowFactory.Disk

theorem lookup_putNode (place : Place) (node : Node) (nodes : List (Place × Node)) (p : Place) :
    (putNode place node nodes).lookup p = if p = place then some node else nodes.lookup p := by
  induction nodes with
  | nil => rw [putNode, Ascending.lookup_cons]
  | cons entry rest ih =>
    obtain ⟨first, n⟩ := entry
    rw [putNode]
    split
    · rw [Ascending.lookup_cons]
    · split
      · rename_i _ hFirst
        rw [Ascending.lookup_cons, Ascending.lookup_cons, ← hFirst]
        split <;> rfl
      · rename_i hFirst
        rw [Ascending.lookup_cons, Ascending.lookup_cons, ih]
        split
        · rename_i hp
          rw [if_neg fun h => hFirst (h.symm.trans hp)]
        · rfl

namespace Tree

theorem node?_put {place : Place} (hPlace : place ≠ []) (t : Tree) (node : Node) (p : Place) :
    (t.put place node).node? p = if p = place then some node else t.node? p := by
  rw [node?, put, lookup_putNode, node?]
  by_cases hTop : p = []
  · rw [if_pos hTop, if_pos hTop, if_neg (fun h : p = place => hPlace (h ▸ hTop))]
  · rw [if_neg hTop, if_neg hTop]

theorem follow_eq_foldl {t : Tree} {place target : Place} {path : List Component}
    (h : t.follow place path = some target) : target = path.foldl step place := by
  induction path generalizing place with
  | nil =>
    cases h
    rfl
  | cons c rest ih =>
    rw [follow] at h
    split at h
    · exact ih h
    · cases h

def placeOf (home : Place) (path : String) : Place := (Path.components path).foldl step home

theorem locate_eq_some_iff {t : Tree} {path : String} {place : Place} :
    t.locate path = some place ↔ path ≠ "" ∧ t.follow t.home (Path.components path) = some place := by
  rw [locate, Option.ite_none_left_eq_some, String.isEmpty_iff]

theorem locate_eq_placeOf {t : Tree} {path : String} {place : Place} (h : t.locate path = some place) :
    place = placeOf t.home path :=
  follow_eq_foldl (locate_eq_some_iff.mp h).2

theorem foldl_step_names (place : Place) (names : List String) :
    (names.map Component.name).foldl step place = place ++ names := by
  induction names generalizing place with
  | nil => rw [List.map_nil, List.foldl_nil, List.append_nil]
  | cons name rest ih => rw [List.map_cons, List.foldl_cons, ih, step, List.append_assoc, List.singleton_append]

theorem foldl_componentsOf (place : Place) (list : List (List Char)) :
    (Path.componentsOf list).foldl step place = (list.filterMap (Path.component? false)).foldl step place := by
  cases list with
  | nil => rfl
  | cons first rest =>
    rw [Path.componentsOf, List.foldl_append]
    fun_cases Path.component? true first <;> simp_all [List.filterMap_cons, Path.component?, step]

theorem placeOf_append_slash {path relative : String} (text : List Char)
    (hPath : path.toList = text ++ '/' :: relative.toList) (hRelative : ¬ Path.isAbsolute relative) (home : Place) :
    placeOf home path = (Path.components relative).foldl step
      (((if (text ++ ['/']).head? = some '/' then [Component.root] else []) ++
        Path.componentsOf (Path.pieces [] text)).foldl step home) := by
  rw [placeOf, Path.components_eq path, Path.isAbsolute, hPath, Path.head?_append_slash, Path.pieces_append,
    Path.componentsOf_append (Path.pieces_ne_nil [] text), Path.components_eq relative, if_neg hRelative,
    List.nil_append, foldl_componentsOf, ← List.append_assoc, List.foldl_append]
  simp only [decide_eq_true_eq]

/-- A path below a directory leads on from the place of the directory; an absolute one starts anew. -/
theorem placeOf_join (home : Place) (directory path : String) :
    placeOf home (Path.join directory path) = (Path.components path).foldl step (placeOf home directory) := by
  rw [Path.join]
  split
  · rename_i hAbsolute
    rw [placeOf, Path.components_eq, if_pos hAbsolute]
    rfl
  · rename_i hRelative
    by_cases hEmpty : directory = ""
    · subst hEmpty
      rfl
    · by_cases hSlash : directory.toList.getLast? = some '/'
      · obtain ⟨text, hText⟩ := List.getLast?_eq_some_iff.mp hSlash
        rw [if_pos (by simp [hSlash]), placeOf_append_slash text (by simp [hText]) hRelative, placeOf,
          Path.components_of_slash hText]
      · have hDirectory : directory.toList ≠ [] := by simpa using hEmpty
        have hHeads : (directory.toList ++ ['/']).head? = directory.toList.head? :=
          List.head?_append_of_ne_nil _ hDirectory
        rw [if_neg (by simp [hEmpty, hSlash]),
          placeOf_append_slash directory.toList (by simp) hRelative, hHeads, placeOf,
          Path.components_eq directory, Path.isAbsolute]
        simp only [decide_eq_true_eq]

theorem placeOf_join_names {path : String} (h : Path.NamesOnly path) (home : Place) (directory : String) :
    placeOf home (Path.join directory path) = placeOf home directory ++ Path.names path := by
  rw [placeOf_join, h.components_eq, foldl_step_names]

/-- Directories stay, and so do files at other places than those that may change. -/
structure Keeps (changing : Place → Prop) (t changed : Tree) : Prop where
  home : changed.home = t.home
  directory : ∀ p, t.node? p = some .directory → changed.node? p = some .directory
  file : ∀ p content, ¬ changing p → t.node? p = some (.file content) → changed.node? p = some (.file content)

namespace Keeps

variable {changing other : Place → Prop} {t changed later : Tree}

theorem refl (changing : Place → Prop) (t : Tree) : Keeps changing t t :=
  ⟨rfl, fun _ h => h, fun _ _ _ h => h⟩

theorem trans (h : Keeps changing t changed) (hLater : Keeps changing changed later) : Keeps changing t later where
  home := hLater.home.trans h.home
  directory p hDirectory := hLater.directory p (h.directory p hDirectory)
  file p content hPlace hFile := hLater.file p content hPlace (h.file p content hPlace hFile)

theorem mono (h : Keeps changing t changed) (hOther : ∀ p, changing p → other p) : Keeps other t changed where
  home := h.home
  directory := h.directory
  file p content hPlace := h.file p content fun hChanging => hPlace (hOther p hChanging)

theorem follow (h : Keeps changing t changed) {place target : Place} {path : List Component}
    (hFollow : t.follow place path = some target) : changed.follow place path = some target := by
  induction path generalizing place with
  | nil => exact hFollow
  | cons c rest ih =>
    rw [Tree.follow] at hFollow ⊢
    split at hFollow
    · rename_i hStep
      rw [if_pos ⟨h.directory place hStep.1, hStep.2⟩]
      exact ih hFollow
    · cases hFollow

theorem locate (h : Keeps changing t changed) {path : String} {place : Place} (hLocate : t.locate path = some place) :
    changed.locate path = some place := by
  obtain ⟨hPath, hFollow⟩ := locate_eq_some_iff.mp hLocate
  exact locate_eq_some_iff.mpr ⟨hPath, h.home ▸ h.follow hFollow⟩

end Keeps

theorem readText_eq_ok {t : Tree} {path text : String} :
    t.readText path = .ok text ↔
      ∃ place, t.locate path = some place ∧ t.node? place = some (.file (.text text)) ∧
        ¬ endsInDirectory path := by
  rw [readText, nodeAt?]
  cases hLocate : t.locate path with
  | none => simp
  | some place =>
    rcases hNode : t.node? place with _ | _ | _ | _ <;> by_cases hEnd : endsInDirectory path <;>
      simp [hNode, hEnd]

theorem node?_of_readText {t : Tree} {path text : String} (h : t.readText path = .ok text) :
    t.node? (placeOf t.home path) = some (.file (.text text)) := by
  obtain ⟨place, hLocate, hNode, _⟩ := readText_eq_ok.mp h
  rw [← locate_eq_placeOf hLocate, hNode]

theorem Keeps.readText {changing : Place → Prop} {t changed : Tree} (h : Keeps changing t changed)
    {path text : String} (hRead : t.readText path = .ok text) (hPlace : ¬ changing (placeOf t.home path)) :
    changed.readText path = .ok text := by
  obtain ⟨place, hLocate, hNode, hEnd⟩ := readText_eq_ok.mp hRead
  rw [← locate_eq_placeOf hLocate] at hPlace
  exact readText_eq_ok.mpr ⟨place, h.locate hLocate, h.file place _ hPlace hNode, hEnd⟩

theorem readText_of_placeOf_eq {t : Tree} {path other text otherText : String}
    (hPlace : placeOf t.home path = placeOf t.home other) (hRead : t.readText path = .ok text)
    (hOther : t.readText other = .ok otherText) : text = otherText := by
  have hNode := node?_of_readText hRead
  rw [hPlace, node?_of_readText hOther] at hNode
  cases hNode
  rfl

/-- A path that could be read can still be read after a change, for what lies at its place then. -/
theorem Keeps.readText_of_placeOf_eq {changing : Place → Prop} {t changed : Tree} (h : Keeps changing t changed)
    {path other text otherText : String} (hRead : t.readText path = .ok text)
    (hPlace : placeOf t.home path = placeOf t.home other) (hOther : changed.readText other = .ok otherText) :
    changed.readText path = .ok otherText := by
  obtain ⟨place, hLocate, _, hEnd⟩ := readText_eq_ok.mp hRead
  have hNode := node?_of_readText hOther
  rw [h.home, ← hPlace, ← locate_eq_placeOf hLocate] at hNode
  exact readText_eq_ok.mpr ⟨place, h.locate hLocate, hNode, hEnd⟩

theorem keeps_makeWay (changing : Place → Prop) (t : Tree) (place : Place) (path : List Component) :
    Keeps changing t (t.makeWay place path).1 := by
  induction path generalizing t place with
  | nil => exact .refl changing t
  | cons c rest ih =>
    rw [makeWay]
    split
    · simp only
      split
      · rename_i hMissing
        have hTop : step place c ≠ [] := by
          intro hTop
          rw [node?, if_pos hTop] at hMissing
          cases hMissing
        have hPut : Keeps changing t (t.put (step place c) .directory) :=
          { home := rfl
            directory := fun p hp => by
              rw [node?_put hTop]
              split
              · rfl
              · exact hp
            file := fun p content _ hp => by
              rw [node?_put hTop, if_neg, hp]
              rintro rfl
              rw [hMissing] at hp
              cases hp }
        exact hPut.trans (ih _ _)
      · exact ih t _
    · exact .refl changing t

theorem keeps_createDirectories (changing : Place → Prop) (t : Tree) (path : String) :
    Keeps changing t (t.createDirectories path).1 := keeps_makeWay changing t t.home _

theorem write_eq_ok {t changed : Tree} {path text : String} (h : t.write path (.text text) = .ok changed) :
    Keeps (· = placeOf t.home path) t changed ∧ changed.readText path = .ok text := by
  rw [write] at h
  cases hLocate : t.locate path with
  | none =>
    rw [hLocate] at h
    cases h
  | some place =>
    rw [hLocate] at h
    simp only at h
    split at h
    · cases h
    · rename_i hFree
      obtain ⟨hNode, hEnd⟩ := not_or.mp hFree
      obtain rfl := Except.ok.inj h
      have hTop : place ≠ [] := by
        rintro rfl
        exact hNode rfl
      have hKeeps : Keeps (· = placeOf t.home path) t (t.put place (.file (.text text))) :=
        { home := rfl
          directory := fun p hp => by
            rw [node?_put hTop, if_neg, hp]
            rintro rfl
            exact hNode hp
          file := fun p content hPlace hp => by
            rw [node?_put hTop, if_neg, hp]
            exact fun h => hPlace (h.trans (locate_eq_placeOf hLocate)) }
      refine ⟨hKeeps, readText_eq_ok.mpr ⟨place, hKeeps.locate hLocate, ?_, hEnd⟩⟩
      rw [node?_put hTop, if_pos rfl]

end Tree

end RowFactory.Disk
