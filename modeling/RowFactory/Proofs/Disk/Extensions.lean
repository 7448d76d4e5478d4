import RowFactory.Proofs.Disk.Names

/-! # Paths without extensions

What a path loses with its extension is the end of its last name, however the path ends behind that name.
-/

namespace RowFactory.Disk.Path

theorem pieces_concat (piece text : List Char) {c : Char} (hc : c ≠ '/') :
    ∃ before last, pieces piece text = before ++ [last] ∧ pieces piece (text ++ [c]) = before ++ [last ++ [c]] := by
  fun_induction pieces piece text with
  | case1 piece =>
    refine ⟨[], piece.reverse, rfl, ?_⟩
    rw [List.nil_append, List.nil_append, pieces, pieces, List.reverse_cons]
    exact hc
  | case2 piece rest ih =>
    obtain ⟨before, last, hRest, hMore⟩ := ih
    refine ⟨piece.reverse :: before, last, ?_, ?_⟩
    · rw [hRest, List.cons_append]
    · rw [List.cons_append, pieces, hMore, List.cons_append]
  | case3 piece d rest hSlash ih =>
    obtain ⟨before, last, hRest, hMore⟩ := ih
    refine ⟨before, last, hRest, ?_⟩
    rw [List.cons_append, pieces, hMore]
    exact hSlash

theorem component?_eq_name {first : Bool} {piece : List Char} {name : String}
    (h : component? first piece = some (.name name)) : piece = name.toList := by
  unfold component? at h
  split at h
  · cases h
  · split at h <;> cases h
  · cases h
  · cases h
    exact String.toList_ofList.symm

theorem component?_of_concat {first : Bool} {piece : List Char} {c : Char}
    (h : component? first (piece ++ [c]) = none) : component? first piece = none := by
  have hPoint : piece ++ [c] = ['.'] := by
    unfold component? at h
    split at h
    · rename_i hEmpty
      simp at hEmpty
    · assumption
    · cases h
    · cases h
  have hSplit : piece ++ [c] = [] ++ ['.'] := hPoint
  obtain ⟨rfl, _⟩ := List.append_inj' hSplit rfl
  rfl

theorem isAbsolute_concat {text : List Char} {c : Char} (h : c = '/' → text ≠ []) :
    isAbsolute (String.ofList (text ++ [c])) = isAbsolute (String.ofList text) := by
  rw [isAbsolute, isAbsolute, String.toList_ofList, String.toList_ofList]
  cases text with
  | nil => simpa using h
  | cons => rfl

/-- Nothing that a name can begin with is one of the pieces that are no names. -/
def Keeps (kept : List Char) : Prop := ∀ more, kept ++ more ∉ [[], ['.'], ['.', '.']]

theorem IsName.keeps {stem : String} (h : IsName stem) : Keeps (stem.toList ++ ['.']) := by
  intro more hMore
  have hStem := h.noPoints
  rw [List.append_assoc] at hMore
  cases hList : stem.toList with
  | nil => simp [hList] at hStem
  | cons c rest => cases rest <;> simp_all

section Cutting

variable {above : List Component} {kept more text : List Char}

/-- The last character of a path is behind its last name, or it ends that name. -/
theorem components_of_concat (hKept : Keeps kept) (hMore : more ≠ []) {c : Char}
    (h : components (String.ofList (text ++ [c])) = above ++ [.name (String.ofList (kept ++ more))]) :
    ∃ less, less <+: more ∧ more.length ≤ less.length + 1 ∧
      components (String.ofList text) = above ++ [.name (String.ofList (kept ++ less))] := by
  have hText : c = '/' → text ≠ [] := by
    rintro rfl rfl
    have hRoot : [] ++ [.root] = above ++ [.name (String.ofList (kept ++ more))] := h
    cases (List.append_inj' hRoot rfl).2
  rw [components_eq, isAbsolute_concat hText, String.toList_ofList] at h
  rw [components_eq, String.toList_ofList]
  -- A slash stands behind the name; any other character is the end of a piece, which need not be a component.
  by_cases hc : c = '/'
  · subst hc
    refine ⟨more, List.prefix_rfl, Nat.le_succ _, ?_⟩
    rw [pieces_append, componentsOf_append (pieces_ne_nil [] text)] at h
    rw [← h]
    exact congrArg _ (List.append_nil _).symm
  · obtain ⟨before, last, hPieces, hConcat⟩ := pieces_concat [] text hc
    rw [hConcat, componentsOf_concat] at h
    rw [hPieces, componentsOf_concat]
    cases hComponent : component? before.isEmpty (last ++ [c]) with
    | none =>
      rw [hComponent] at h
      rw [component?_of_concat hComponent]
      exact ⟨more, List.prefix_rfl, Nat.le_succ _, h⟩
    | some x =>
      rw [hComponent, Option.toList_some, ← List.append_assoc] at h
      obtain ⟨hAbove, hLast⟩ := List.append_inj' h rfl
      rw [(List.cons.inj hLast).1] at hComponent
      have hName := component?_eq_name hComponent
      obtain ⟨less, d, rfl⟩ : ∃ less d, more = less ++ [d] :=
        ⟨more.dropLast, more.getLast hMore, (List.dropLast_concat_getLast hMore).symm⟩
      rw [String.toList_ofList, ← List.append_assoc] at hName
      obtain ⟨rfl, _⟩ := List.append_inj' hName rfl
      refine ⟨less, ?_, ?_, ?_⟩
      · simp
      · simp
      · rw [component?_of_noPoints (hKept less), Option.toList_some, ← List.append_assoc, hAbove]

theorem components_take (hKept : Keeps kept)
    (h : components (String.ofList text) = above ++ [.name (String.ofList (kept ++ more))]) {n : Nat}
    (hn : n ≤ more.length) :
    ∃ less, less <+: more ∧ more.length ≤ less.length + n ∧
      components (String.ofList (text.take (text.length - n))) = above ++ [.name (String.ofList (kept ++ less))] := by
  induction n with
  | zero => exact ⟨more, List.prefix_rfl, Nat.le_refl _, by simpa using h⟩
  | succ n ih =>
    obtain ⟨less, hLess, hLength, hComponents⟩ := ih (Nat.le_of_succ_le hn)
    have hMore : less ≠ [] := by
      rintro rfl
      rw [List.length_nil] at hLength
      omega
    have hText : text.take (text.length - n) ≠ [] := by
      intro hEmpty
      rw [hEmpty] at hComponents
      exact List.append_ne_nil_of_right_ne_nil above (List.cons_ne_nil _ []) hComponents.symm
    rw [← List.dropLast_concat_getLast hText] at hComponents
    obtain ⟨shorter, hShorter, hOne, hCut⟩ := components_of_concat hKept hMore hComponents
    refine ⟨shorter, hShorter.trans hLess, by omega, ?_⟩
    rw [List.dropLast_eq_take, List.take_take, List.length_take] at hCut
    have hLeft : min (min (text.length - n) text.length - 1) (text.length - n) = text.length - (n + 1) := by omega
    rwa [hLeft] at hCut

end Cutting

/-- Whether a path has the root does not hang on what its last piece is, if that is not empty. -/
theorem isAbsolute_eq_of_pieces {path other : String} {before cut : List (List Char)} {piece last : List Char}
    (h : pieces [] path.toList = before ++ piece :: cut) (hPiece : piece ≠ [])
    (hOther : pieces [] other.toList = before ++ [last]) (hLast : last ≠ []) : isAbsolute other = isAbsolute path := by
  rw [Bool.eq_iff_iff]
  cases before with
  | nil =>
    rw [isAbsolute_iff hOther, isAbsolute_iff h]
    simp [hPiece, hLast]
  | cons first others =>
    rw [isAbsolute_iff hOther, isAbsolute_iff h]
    simp

theorem components_endAtStem {path stem ending : String} {above : List Component}
    (h : components path = above ++ [.name (stem ++ "." ++ ending)]) (hStem : IsName stem)
    (hEnding : '.' ∉ ending.toList) : components (endAtStem path) = above ++ [.name stem] := by
  have hEmpty : stem ≠ "" := by
    rintro rfl
    exact hStem.noPoints (by decide)
  obtain ⟨piece, rest, cut, hTrim, hPieces, rfl⟩ := trim_of_components h
  rw [endAtStem, fileStem?_of_components h hEmpty hEnding, hTrim]
  have hStemPiece : component? rest.reverse.isEmpty stem.toList = some (.name stem) := by
    rw [component?_of_noPoints hStem.noPoints, String.ofList_toList]
  have hSlash : ∀ p ∈ rest.reverse ++ [stem.toList], '/' ∉ p := by
    intro p hp
    rcases List.mem_append.mp hp with hp | hp
    · exact no_slash_of_mem_pieces List.not_mem_nil (hPieces ▸ List.mem_append_left _ hp)
    · rw [List.mem_singleton.mp hp]
      exact hStem.noSlash
  have hOf : pieces [] (ofPieces (stem.toList :: rest)).toList = rest.reverse ++ [stem.toList] := by
    rw [ofPieces, List.reverse_cons, String.toList_ofList, pieces_intercalate (List.concat_ne_nil _ _) hSlash]
  have hAbsolute : isAbsolute (ofPieces (stem.toList :: rest)) = isAbsolute path := by
    have hPiece : piece ≠ [] := by
      rintro rfl
      cases isSome_of_trim hTrim
    exact isAbsolute_eq_of_pieces hPieces hPiece hOf (String.toList_eq_nil_iff.not.mpr hEmpty)
  change components (ofPieces (stem.toList :: rest)) = _
  rw [components_eq, hAbsolute, hOf, componentsOf_concat, hStemPiece, Option.toList_some, List.append_assoc]

/-- A path without its extension has the stem in the place of its last name. -/
theorem components_dropExtension {path stem ending : String} {above : List Component}
    (h : components path = above ++ [.name (stem ++ "." ++ ending)]) (hStem : IsName stem)
    (hEnding : '.' ∉ ending.toList) : components (dropExtension path) = above ++ [.name stem] := by
  have hEmpty : stem ≠ "" := by
    rintro rfl
    exact hStem.noPoints (by decide)
  have hExtension : extension? path = some ending := by
    rw [extension?, fileName?_eq_some.mpr ⟨above, h⟩]
    exact congrArg Prod.snd (splitName_append hEmpty hEnding)
  have hText : components (String.ofList path.toList) =
      above ++ [.name (String.ofList ((stem.toList ++ ['.']) ++ ending.toList))] := by
    rw [String.ofList_toList, h, String.ofList_append, String.ofList_append, String.ofList_toList, String.ofList_toList]
  obtain ⟨less, hLess, _, hCut⟩ := components_take hStem.keeps hText (Nat.le_refl ending.toList.length)
  have hShort : components (String.ofList (path.toList.take (path.length - ending.length))) =
      above ++ [.name (stem ++ "." ++ String.ofList less)] := by
    rw [String.ofList_append, String.ofList_append, String.ofList_toList] at hCut
    exact hCut
  have hPoint : '.' ∉ (String.ofList less).toList := by
    rw [String.toList_ofList]
    exact fun hPoint => hEnding (hLess.subset hPoint)
  rw [dropExtension, hExtension]
  exact components_endAtStem hShort hStem hPoint

end RowFactory.Disk.Path
