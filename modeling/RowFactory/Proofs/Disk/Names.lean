import Mathlib.Data.List.Induction
import RowFactory.Proofs.Disk.Paths

/-! # Paths by the names on their way

The last name of a path, its stem and the path above it can be told from the components. A path that only goes
down is as good as the list of its names, and the path above a name that has been joined to a directory is spelled as
the directory was.
-/

namespace RowFactory.Disk.Path

theorem fileName?_eq_some {path name : String} :
    fileName? path = some name ↔ ∃ above, components path = above ++ [.name name] := by
  rw [← List.getLast?_eq_some_iff, fileName?]
  rcases (components path).getLast? with _ | _ | _ | _ | text <;> simp

theorem splitName_append {stem ending : String} (hStem : stem ≠ "") (hEnding : '.' ∉ ending.toList) :
    splitName (stem ++ "." ++ ending) = (stem, some ending) := by
  have hReversed : (stem ++ "." ++ ending).toList.reverse =
      ending.toList.reverse ++ '.' :: stem.toList.reverse := by
    simp
  have hKept : ∀ c ∈ ending.toList.reverse, decide (c ≠ '.') = true := by
    intro c hc
    rw [decide_eq_true_eq]
    rintro rfl
    exact hEnding (List.mem_reverse.mp hc)
  have hRest : stem.toList.reverse ≠ [] := by simpa using hStem
  obtain ⟨last, rest, hLast⟩ := List.exists_cons_of_ne_nil hRest
  have hStemList : stem.toList = rest.reverse ++ [last] := by
    rw [← List.reverse_reverse stem.toList, hLast, List.reverse_cons]
  rw [splitName, hReversed, List.takeWhile_append_of_pos hKept, List.dropWhile_append_of_pos hKept, hLast]
  simp only [ne_eq, not_true_eq_false, decide_false, Bool.false_eq_true, not_false_eq_true,
    List.takeWhile_cons_of_neg, List.dropWhile_cons_of_neg, List.append_nil, List.reverse_reverse,
    String.ofList_toList, List.reverse_cons]
  rw [← hStemList, String.ofList_toList]

theorem fileStem?_of_components {path stem ending : String} {above : List Component}
    (h : components path = above ++ [.name (stem ++ "." ++ ending)]) (hStem : stem ≠ "")
    (hEnding : '.' ∉ ending.toList) : fileStem? path = some stem := by
  rw [fileStem?, fileName?_eq_some.mpr ⟨above, h⟩, Option.map_some, splitName_append hStem hEnding]

theorem no_slash_of_mem_pieces {piece text p : List Char} (hPiece : '/' ∉ piece) (hp : p ∈ pieces piece text) :
    '/' ∉ p := by
  fun_induction pieces piece text with
  | case1 piece =>
    rw [List.mem_singleton.mp hp]
    simpa using hPiece
  | case2 piece rest ih =>
    rcases List.mem_cons.mp hp with rfl | hp
    · simpa using hPiece
    · exact ih List.not_mem_nil hp
  | case3 piece c rest hSlash ih =>
    refine ih ?_ hp
    rw [List.mem_cons, not_or]
    exact ⟨fun h => hSlash h.symm, hPiece⟩

theorem pieces_intercalate {list : List (List Char)} (hList : list ≠ []) (hSlash : ∀ p ∈ list, '/' ∉ p) :
    pieces [] (['/'].intercalate list) = list := by
  induction list with
  | nil => exact absurd rfl hList
  | cons p rest ih =>
    have hp := hSlash p List.mem_cons_self
    cases rest with
    | nil => rw [List.intercalate_singleton, pieces_of_no_slash hp, List.reverse_nil, List.nil_append]
    | cons q others =>
      rw [List.intercalate_cons_cons, List.append_assoc, List.singleton_append, pieces_append,
        pieces_of_no_slash hp, ih (List.cons_ne_nil q others) fun r hr => hSlash r (List.mem_cons_of_mem p hr)]
      rfl

theorem intercalate_pieces (piece text : List Char) :
    ['/'].intercalate (pieces piece text) = piece.reverse ++ text := by
  fun_induction pieces piece text with
  | case1 piece => rw [List.intercalate_singleton, List.append_nil]
  | case2 piece rest ih =>
    obtain ⟨next, others, hNext⟩ := List.exists_cons_of_ne_nil (pieces_ne_nil [] rest)
    rw [hNext] at ih ⊢
    rw [List.intercalate_cons_cons, ih, List.append_assoc]
    rfl
  | case3 piece c rest _ ih => rw [ih, List.reverse_cons, List.append_assoc, List.singleton_append]

theorem componentsOf_concat (list : List (List Char)) (piece : List Char) :
    componentsOf (list ++ [piece]) = componentsOf list ++ (component? list.isEmpty piece).toList := by
  cases list with
  | nil => simp [componentsOf]
  | cons first rest =>
    rw [componentsOf_append (List.cons_ne_nil first rest), List.isEmpty_cons, List.filterMap_cons,
      List.filterMap_nil]
    cases component? false piece <;> rfl

theorem componentsOf_trim (reversed : List (List Char)) :
    componentsOf (trim reversed).reverse = componentsOf reversed.reverse := by
  induction reversed with
  | nil => rfl
  | cons piece rest ih =>
    rw [trim]
    split
    · rfl
    · rename_i hPiece
      have hNone : component? rest.reverse.isEmpty piece = none := by
        rw [List.isEmpty_reverse]
        simpa using hPiece
      rw [ih, List.reverse_cons, componentsOf_concat, hNone, Option.toList_none, List.append_nil]

theorem exists_trim (reversed : List (List Char)) : ∃ cut, reversed = cut ++ trim reversed := by
  induction reversed with
  | nil => exact ⟨[], rfl⟩
  | cons piece rest ih =>
    rw [trim]
    split
    · exact ⟨[], rfl⟩
    · obtain ⟨cut, hCut⟩ := ih
      exact ⟨piece :: cut, congrArg (piece :: ·) hCut⟩

theorem isSome_of_trim {reversed rest : List (List Char)} {piece : List Char} (h : trim reversed = piece :: rest) :
    (component? rest.isEmpty piece).isSome := by
  induction reversed with
  | nil => cases h
  | cons first others ih =>
    rw [trim] at h
    split at h
    · rename_i hFirst
      cases h
      exact hFirst
    · exact ih h

theorem exists_componentsOf_trim {reversed rest : List (List Char)} {piece : List Char}
    (h : trim reversed = piece :: rest) : ∃ c, componentsOf reversed.reverse = componentsOf rest.reverse ++ [c] := by
  obtain ⟨c, hc⟩ := Option.isSome_iff_exists.mp (isSome_of_trim h)
  refine ⟨c, ?_⟩
  rw [← componentsOf_trim, h, List.reverse_cons, componentsOf_concat, List.isEmpty_reverse, hc,
    Option.toList_some]

theorem prefix_of_pieces {piece text first : List Char} {rest : List (List Char)}
    (h : pieces piece text = first :: rest) : piece.reverse <+: first := by
  fun_induction pieces piece text with
  | case1 piece =>
    obtain ⟨rfl, _⟩ := List.cons.inj h
    exact List.prefix_rfl
  | case2 piece text ih =>
    obtain ⟨rfl, _⟩ := List.cons.inj h
    exact List.prefix_rfl
  | case3 piece c text _ ih =>
    have hPrefix := ih h
    rw [List.reverse_cons] at hPrefix
    exact (List.prefix_append _ _).trans hPrefix

/-- A path has the root if its first piece is empty and there is another one. -/
theorem isAbsolute_iff {path : String} {first : List Char} {rest : List (List Char)}
    (h : pieces [] path.toList = first :: rest) : isAbsolute path ↔ first = [] ∧ rest ≠ [] := by
  rw [isAbsolute, decide_eq_true_eq]
  cases hText : path.toList with
  | nil =>
    rw [hText] at h
    cases h
    simp
  | cons c text =>
    rw [hText] at h
    by_cases hc : c = '/'
    · subst hc
      rw [pieces] at h
      obtain ⟨rfl, rfl⟩ := List.cons.inj h
      simp [pieces_ne_nil]
    · rw [pieces] at h
      · have hFirst : first ≠ [] := by
          rintro rfl
          simpa using prefix_of_pieces h
        simp [hc, hFirst]
      · exact hc

/-- The beginning of the pieces of a path makes up a path of its own, which has the root if the path has it. -/
theorem components_ofPieces {path : String} {first rest : List (List Char)}
    (hPieces : pieces [] path.toList = first ++ rest) (hFirst : componentsOf first ≠ []) :
    components (ofPieces first.reverse) = (if isAbsolute path then [.root] else []) ++ componentsOf first := by
  have hSlash : ∀ p ∈ first, '/' ∉ p := fun p hp =>
    no_slash_of_mem_pieces List.not_mem_nil (hPieces ▸ List.mem_append_left rest hp)
  cases first with
  | nil => exact absurd rfl hFirst
  | cons piece others =>
    have hOf : pieces [] (ofPieces (piece :: others).reverse).toList = piece :: others := by
      rw [ofPieces, List.reverse_reverse, String.toList_ofList, pieces_intercalate (List.cons_ne_nil _ _) hSlash]
    have hAbsolute : isAbsolute (ofPieces (piece :: others).reverse) = isAbsolute path := by
      rw [Bool.eq_iff_iff, isAbsolute_iff hOf, isAbsolute_iff hPieces]
      -- An empty piece makes no component, so that there is another one after it.
      cases others <;> cases piece <;> simp_all [componentsOf, component?]
    rw [components_eq, hAbsolute, hOf]

theorem trim_of_components {path name : String} {above : List Component}
    (h : components path = above ++ [.name name]) :
    ∃ piece rest cut, trim (pieces [] path.toList).reverse = piece :: rest ∧
      pieces [] path.toList = rest.reverse ++ piece :: cut ∧
      above = (if isAbsolute path then [.root] else []) ++ componentsOf rest.reverse := by
  rw [components_eq] at h
  obtain ⟨cut, hCut⟩ := exists_trim (pieces [] path.toList).reverse
  cases hTrim : trim (pieces [] path.toList).reverse with
  | nil =>
    have hNone : componentsOf (pieces [] path.toList) = [] := by
      rw [← List.reverse_reverse (pieces [] path.toList), ← componentsOf_trim, hTrim]
      rfl
    rw [hNone, List.append_nil] at h
    split at h <;> simp [List.singleton_eq_append_iff] at h
  | cons piece rest =>
    obtain ⟨c, hc⟩ := exists_componentsOf_trim hTrim
    rw [List.reverse_reverse] at hc
    rw [hc, ← List.append_assoc] at h
    refine ⟨piece, rest, cut.reverse, rfl, ?_, (List.append_inj' h rfl).1.symm⟩
    rw [← List.reverse_reverse (pieces [] path.toList), hCut, hTrim, List.reverse_append, List.reverse_cons,
      List.append_assoc, List.singleton_append]

theorem parent?_of_components {path name : String} {above : List Component}
    (h : components path = above ++ [.name name]) :
    ∃ directory, parent? path = some directory ∧ components directory = above := by
  obtain ⟨piece, rest, cut, hTrim, hPieces, rfl⟩ := trim_of_components h
  rw [parent?, hTrim]
  refine ⟨_, rfl, ?_⟩
  rw [← componentsOf_trim]
  cases hRest : trim rest with
  | nil =>
    rw [rooted]
    split <;> decide
  | cons last others =>
    obtain ⟨inner, hInner⟩ := exists_trim rest
    obtain ⟨d, hd⟩ := exists_componentsOf_trim hRest
    rw [← componentsOf_trim, hRest] at hd
    have hFirst : pieces [] path.toList = (last :: others).reverse ++ (inner.reverse ++ piece :: cut) := by
      rw [hPieces, hInner, hRest, List.reverse_append, List.append_assoc]
    have hOf := components_ofPieces hFirst (by rw [hd]; simp)
    rw [List.reverse_reverse] at hOf
    exact hOf

/-- The path goes down by the given names. -/
def GoesBy (path : String) (names : List String) : Prop := components path = names.map .name

instance (path : String) (names : List String) : Decidable (GoesBy path names) :=
  inferInstanceAs (Decidable (components path = names.map .name))

theorem names_map_inj {names others : List String} :
    names.map Component.name = others.map Component.name ↔ names = others :=
  List.map_inj_right fun _ _ => Component.name.inj

section GoesBy

variable {path other : String} {list others : List String}

theorem GoesBy.namesOnly (h : GoesBy path list) : NamesOnly path := by
  intro c hc
  rw [h] at hc
  obtain ⟨name, _, rfl⟩ := List.mem_map.mp hc
  exact ⟨name, rfl⟩

theorem GoesBy.join (h : GoesBy path list) (hOther : GoesBy other others) :
    GoesBy (Path.join path other) (list ++ others) := by
  rw [GoesBy, hOther.namesOnly.components_join, h, hOther, List.map_append]

end GoesBy

theorem goesBy_empty : GoesBy "" [] := by decide

theorem IsName.goesBy {name : String} (h : IsName name) : GoesBy name [name] := h.components_eq

theorem ofParts_append_singleton (parts : List String) (part : String) :
    ofParts (parts ++ [part]) = join (ofParts parts) part := by
  rw [ofParts, List.foldl_append]
  rfl

theorem goesBy_ofParts {parts : List String} (h : ∀ part ∈ parts, IsName part) : GoesBy (ofParts parts) parts := by
  induction parts using List.reverseRecOn with
  | nil => exact goesBy_empty
  | append_singleton parts part ih =>
    have hParts := ih fun other hOther => h other (List.mem_append_left _ hOther)
    have hPart := (h part (List.mem_append_right _ List.mem_cons_self)).goesBy
    rw [ofParts_append_singleton]
    exact hParts.join hPart

/-- The last piece of a path is a name, so that nothing is cut off at its end. -/
def EndsInName (path : String) : Prop :=
  ∃ before name, IsName name ∧ pieces [] path.toList = before ++ [name.toList]

theorem IsName.not_isAbsolute {name : String} (h : IsName name) : ¬ isAbsolute name := by
  simp only [isAbsolute, decide_eq_true_eq]
  exact fun hSlash => h.noSlash (List.mem_of_head? hSlash)

theorem IsName.pieces_eq {name : String} (h : IsName name) : pieces [] name.toList = [name.toList] := by
  rw [pieces_of_no_slash h.noSlash, List.reverse_nil, List.nil_append]

theorem IsName.trim_cons {name : String} (h : IsName name) (reversed : List (List Char)) :
    trim (name.toList :: reversed) = name.toList :: reversed := by
  rw [trim, component?_of_noPoints h.noPoints]
  exact if_pos rfl

section EndsInName

variable {directory name : String}

theorem EndsInName.trim_eq (h : EndsInName directory) :
    trim (pieces [] directory.toList).reverse = (pieces [] directory.toList).reverse := by
  obtain ⟨before, last, hLast, hPieces⟩ := h
  rw [hPieces, List.reverse_concat, hLast.trim_cons]

theorem EndsInName.getLast?_ne (h : EndsInName directory) : directory.toList.getLast? ≠ some '/' := by
  obtain ⟨before, last, hLast, hPieces⟩ := h
  intro hSlash
  obtain ⟨text, hText⟩ := List.getLast?_eq_some_iff.mp hSlash
  rw [hText, pieces_append] at hPieces
  have hEmpty : last.toList = [] := (List.cons.inj (List.append_inj' hPieces rfl).2).1.symm
  exact hLast.noPoints (hEmpty ▸ List.mem_cons_self)

theorem EndsInName.toList_join (h : EndsInName directory) (hName : IsName name) :
    (join directory name).toList = directory.toList ++ '/' :: name.toList := by
  have hNonempty : directory ≠ "" := by
    rintro rfl
    obtain ⟨before, last, hLast, hPieces⟩ := h
    have hSplit : [] ++ [[]] = before ++ [last.toList] := hPieces
    have hEmpty : last.toList = [] := (List.cons.inj (List.append_inj' hSplit rfl).2).1.symm
    exact hLast.noPoints (hEmpty ▸ List.mem_cons_self)
  rw [join, if_neg hName.not_isAbsolute, if_neg (by simp [hNonempty, h.getLast?_ne])]
  simp

theorem join_empty (name : String) : join "" name = name := by
  rw [join]
  split
  · rfl
  · exact String.empty_append

theorem endsInName_join (h : directory = "" ∨ EndsInName directory) (hName : IsName name) :
    EndsInName (join directory name) := by
  rcases h with rfl | h
  · rw [join_empty]
    exact ⟨[], name, hName, hName.pieces_eq⟩
  · refine ⟨pieces [] directory.toList, name, hName, ?_⟩
    rw [h.toList_join hName, pieces_append, hName.pieces_eq]

/-- The path above a name in a directory is the directory, letter by letter. -/
theorem parent?_join (h : directory = "" ∨ EndsInName directory) (hName : IsName name) :
    parent? (join directory name) = some directory := by
  rcases h with rfl | h
  · rw [join_empty, parent?, hName.pieces_eq, List.reverse_singleton, hName.trim_cons]
    exact congrArg some (if_neg hName.not_isAbsolute)
  · rw [parent?, h.toList_join hName, pieces_append, hName.pieces_eq, List.reverse_concat, hName.trim_cons]
    simp only [h.trim_eq]
    obtain ⟨last, others, hReversed⟩ :=
      List.exists_cons_of_ne_nil (List.reverse_ne_nil_iff.mpr (pieces_ne_nil [] directory.toList))
    rw [hReversed]
    change some (ofPieces (last :: others)) = some directory
    rw [← hReversed, ofPieces, List.reverse_reverse, intercalate_pieces, List.reverse_nil, List.nil_append,
      String.ofList_toList]

end EndsInName

theorem endsInName_ofParts {parts : List String} (h : ∀ part ∈ parts, IsName part) :
    ofParts parts = "" ∨ EndsInName (ofParts parts) := by
  induction parts using List.reverseRecOn with
  | nil => exact .inl rfl
  | append_singleton parts part ih =>
    rw [ofParts_append_singleton]
    exact .inr (endsInName_join (ih fun other hOther => h other (List.mem_append_left _ hOther))
      (h part (List.mem_append_right _ List.mem_cons_self)))

end RowFactory.Disk.Path
