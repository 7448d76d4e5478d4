import RowFactory.Code.Path
import RowFactory.Code.Validity
import RowFactory.Proofs.Code.Names

/-! # Paths of words

Words joined by separators are a path, unless one of them is a keyword that is no name in a path.
-/

namespace RowFactory.Code

def isPathWord (word : String) : Bool :=
  ["super", "self", "crate", "try"].contains word || !(word = "_" || keywords.contains word && word != "Self")

theorem identOf_special {word : String} (h : ["super", "self", "crate", "try"].contains word) :
    Grammar.identOf word = ⟨word, false⟩ := by
  simp only [List.contains_eq_mem, List.mem_cons, List.not_mem_nil, or_false, decide_eq_true_eq] at h
  rcases h with rfl | rfl | rfl | rfl <;> decide

theorem Spells.identOf_name {word name : String} (h : Spells word name) : (Grammar.identOf word).name = name := by
  obtain ⟨hName, rfl | ⟨rfl, _⟩⟩ := h
  · rw [identOf_plain hName]
  · rw [identOf_marked]

theorem map_identOf_name {words names : List String} (h : List.Forall₂ Spells words names) :
    words.map (fun word => (Grammar.identOf word).name) = names := by
  induction h with
  | nil => rfl
  | cons hWord _ ih => rw [List.map_cons, hWord.identOf_name, ih]

theorem standsInPath_plain {name : String} (h : IsWord name.toList) :
    (⟨name, false⟩ : Ident).standsInPath = isPathWord name := by
  have hEmpty : name ≠ "" := by
    rintro rfl
    exact h
  by_cases hKeyword : name ∈ pathKeywords
  · rw [Ident.standsInPath, List.contains_eq_mem, decide_eq_true hKeyword, Bool.not_false, Bool.true_and, Bool.or_true]
    simp only [pathKeywords, List.mem_cons, List.not_mem_nil, or_false] at hKeyword
    rcases hKeyword with rfl | rfl | rfl | rfl | rfl <;> decide
  · have hOther := hKeyword
    simp only [pathKeywords, List.mem_cons, List.not_mem_nil, or_false, not_or] at hOther
    have hSelf : (name != "Self") = true := bne_iff_ne.mpr hOther.2.1
    simp [Ident.standsInPath, Ident.isName, isPathWord, isWord_iff.mpr h, hKeyword, unnameable, hEmpty, hOther, hSelf]

theorem standsInPath_marked {name : String} (h : IsWord name.toList) (hRaw : cannotBeRaw name.toList = false) :
    (⟨name, true⟩ : Ident).standsInPath = isPathWord ("r#" ++ name) := by
  have hMarks : ∀ word ∈ "_" :: (keywords ++ pathKeywords), word.toList[1]? ≠ some '#' := by decide
  have hWord : "r#" ++ name ∉ "_" :: (keywords ++ pathKeywords) := by
    intro hMem
    apply hMarks _ hMem
    rw [String.toList_append]
    rfl
  have hEmpty : name ≠ "" := by
    rintro rfl
    exact h
  rw [cannotBeRaw, String.ofList_toList, List.contains_eq_mem, decide_eq_false_iff_not] at hRaw
  simp only [List.mem_cons, List.mem_append, List.not_mem_nil, or_false, not_or] at hRaw hWord
  simp [Ident.standsInPath, Ident.isName, isPathWord, isWord_iff.mpr h, unnameable, hEmpty, hRaw, hWord]

theorem Spells.standsInPath_identOf {word name : String} (h : Spells word name) :
    (Grammar.identOf word).standsInPath = isPathWord word := by
  obtain ⟨hName, rfl | ⟨rfl, hRaw⟩⟩ := h
  · rw [identOf_plain hName, standsInPath_plain hName]
  · rw [identOf_marked, standsInPath_marked hName hRaw]

theorem segment_word {word name : String} (h : Spells word name) {rest : List Token}
    (hPlain : Grammar.isSymbol "<" rest = false)
    (hExplicit : (Grammar.symbol "::" rest).any (Grammar.isSymbol "<") = false) (fuel : Nat) :
    Grammar.segment (fuel + 1) false (.word word :: rest) =
      if isPathWord word then some (⟨Grammar.identOf word, []⟩, rest) else none := by
  simp only [Grammar.segment, hPlain, hExplicit, Bool.false_and, Bool.and_false, Bool.or_false, Bool.false_eq_true,
    if_false]
  by_cases hSpecial : ["super", "self", "crate", "try"].contains word
  · rw [if_pos hSpecial, isPathWord, hSpecial, Bool.true_or, if_pos rfl, identOf_special hSpecial]
  · rw [if_neg hSpecial, h.standsInPath_identOf]
    cases isPathWord word <;> rfl

theorem wordTokens_cons_cons (word next : String) (others : List String) :
    wordTokens (word :: next :: others) =
      .word word :: .mark ':' true :: .mark ':' false :: wordTokens (next :: others) := rfl

theorem segments_words {words names : List String} (h : List.Forall₂ Spells words names) (hWords : words ≠ [])
    {fuel : Nat} (hFuel : words.length < fuel) :
    Grammar.segments fuel false (wordTokens words) =
      if words.all isPathWord then some (words.map fun word => ⟨Grammar.identOf word, []⟩, []) else none := by
  induction h generalizing fuel with
  | nil => exact absurd rfl hWords
  | @cons word name rest others hWord hRest ih =>
    obtain ⟨fuel, rfl⟩ : ∃ n, fuel = n + 2 := ⟨fuel - 2, by simp at hFuel; omega⟩
    cases hRest with
    | nil =>
      rw [wordTokens, Grammar.segments, segment_word hWord rfl rfl]
      cases hPath : isPathWord word <;> simp [hPath, Grammar.symbol, Grammar.symbol?]
    | @cons next _ others _ _ _ =>
      obtain ⟨more, hMore⟩ : ∃ more, wordTokens (next :: others) = .word next :: more := by
        cases others <;> exact ⟨_, rfl⟩
      have hOther : Grammar.isOpening .parenthesis (wordTokens (next :: others)) = false := by rw [hMore]; rfl
      have hSymbol : Grammar.symbol "::" (.mark ':' true :: .mark ':' false :: wordTokens (next :: others)) =
          some (wordTokens (next :: others)) := rfl
      have hRest := ih (List.cons_ne_nil next others) (Nat.lt_of_succ_lt_succ hFuel)
      rw [wordTokens_cons_cons, Grammar.segments, segment_word hWord rfl (by rw [hSymbol, hMore]; rfl), List.all_cons]
      cases isPathWord word with
      | false => rfl
      | true =>
        simp only [if_true, hSymbol, hOther, hRest, Bool.true_and, Bool.false_eq_true, if_false]
        cases (next :: others).all isPathWord <;> rfl

theorem length_le_wordTokens (words : List String) : words.length ≤ (wordTokens words).length := by
  induction words with
  | nil => exact Nat.le_refl 0
  | cons word rest ih =>
    cases rest with
    | nil => simp [wordTokens]
    | cons next others =>
      simp only [wordTokens_cons_cons, List.length_cons] at ih ⊢
      omega

/-- Words joined by separators are a path, if each may be a name in one. -/
theorem parse?_words {words names : List String} (h : List.Forall₂ Spells words names) (hWords : words ≠ []) :
    Path.parse? ("::".intercalate words) =
      if words.all isPathWord then some ⟨false, words.map fun word => ⟨Grammar.identOf word, []⟩⟩ else none := by
  have hTokens : Grammar.symbol "::" (wordTokens words) = none := by
    rcases words with _ | ⟨word, _ | ⟨next, others⟩⟩ <;> rfl
  have hFuel : words.length < 10 * (wordTokens words).length + 9 := by
    have hLength := length_le_wordTokens words
    omega
  rw [Path.parse?, lex_words h hWords]
  simp only [Grammar.fuelFor, Grammar.path, hTokens, segments_words h hWords hFuel]
  cases words.all isPathWord <;> rfl

/-- Segments are one segment and, behind a separator, the other ones. -/
theorem segments_cons {fuel : Nat} {inExpression : Bool} {tokens rest : Grammar.Tokens} {found : List Segment}
    (h : Grammar.segments (fuel + 1) inExpression tokens = some (found, rest)) :
    ∃ first after more, found = first :: more ∧ Grammar.segment fuel inExpression tokens = some (first, after) ∧
      (more = [] ∨ ∃ behind, Grammar.segments fuel inExpression behind = some (more, rest)) := by
  rw [Grammar.segments] at h
  cases hFirst : Grammar.segment fuel inExpression tokens with
  | none => simp [hFirst] at h
  | some result =>
    obtain ⟨first, after⟩ := result
    rw [hFirst] at h
    dsimp only at h
    split at h
    · split at h
      · cases h
        exact ⟨first, _, [], rfl, rfl, .inl rfl⟩
      · obtain ⟨⟨more, _⟩, hMore, hFound⟩ := Option.map_eq_some_iff.mp h
        cases hFound
        exact ⟨first, after, more, rfl, rfl, .inr ⟨_, hMore⟩⟩
    · cases h
      exact ⟨first, _, [], rfl, rfl, .inl rfl⟩

theorem segments_ne_nil {fuel : Nat} {inExpression : Bool} {tokens : Grammar.Tokens} {found : List Segment}
    {rest : Grammar.Tokens} (h : Grammar.segments fuel inExpression tokens = some (found, rest)) : found ≠ [] := by
  cases fuel with
  | zero => cases h
  | succ fuel =>
    obtain ⟨first, _, more, rfl, _⟩ := segments_cons h
    exact List.cons_ne_nil first more

theorem segment_isNamed {fuel : Nat} {inExpression : Bool} {tokens rest : Grammar.Tokens} {s : Segment}
    (h : Grammar.segment fuel inExpression tokens = some (s, rest)) : s.ident.standsInPath := by
  have hSpecial : ∀ word ∈ ["super", "self", "crate", "try"], (⟨word, false⟩ : Ident).standsInPath := by decide
  cases fuel with
  | zero => cases h
  | succ fuel =>
    rw [Grammar.segment.eq_def] at h
    dsimp only at h
    split at h
    · rename_i word _
      split at h
      · rename_i hWord
        cases h
        exact hSpecial word (List.contains_iff_mem.mp hWord)
      · split at h
        · cases h
        · rename_i hName
          have hIdent : (Grammar.identOf word).standsInPath := by simpa using hName
          split at h
          · split at h <;> cases h
            exact hIdent
          · cases h
            exact hIdent
    · cases h

theorem segments_isNamed {fuel : Nat} {inExpression : Bool} {tokens rest : Grammar.Tokens} {found : List Segment}
    (h : Grammar.segments fuel inExpression tokens = some (found, rest)) : ∀ s ∈ found, s.ident.standsInPath := by
  induction fuel generalizing tokens rest found with
  | zero => cases h
  | succ fuel ih =>
    obtain ⟨first, after, more, rfl, hFirst, hMore⟩ := segments_cons h
    refine List.forall_mem_cons.mpr ⟨segment_isNamed hFirst, ?_⟩
    rcases hMore with rfl | ⟨behind, hMore⟩
    · exact List.forall_mem_nil _
    · exact ih hMore

theorem exists_segments {text : String} {p : Path} (h : Path.parse text = .ok p) :
    ∃ fuel tokens rest, Grammar.segments fuel false tokens = some (p.segments, rest) := by
  obtain ⟨tokens, hFound⟩ : ∃ tokens, Grammar.path (Grammar.fuelFor tokens) false tokens = some (p, []) := by
    rw [Path.parse, Path.parse?] at h
    split at h
    · rename_i found hParsed
      cases h
      split at hParsed
      · cases hParsed
      · rename_i tokens _
        split at hParsed
        · rename_i hFound
          cases hParsed
          exact ⟨tokens, hFound⟩
        · cases hParsed
    · cases h
  rw [Grammar.fuelFor, Grammar.path] at hFound
  split at hFound <;>
  · obtain ⟨⟨list, rest⟩, hList, hPath⟩ := Option.map_eq_some_iff.mp hFound
    cases hPath
    exact ⟨_, _, _, hList⟩

theorem parse_segments {text : String} {p : Path} (h : Path.parse text = .ok p) : p.segments ≠ [] := by
  obtain ⟨_, _, _, hSegments⟩ := exists_segments h
  exact segments_ne_nil hSegments

theorem parse_isNamed {text : String} {p : Path} (h : Path.parse text = .ok p) : p.isNamed := by
  obtain ⟨_, _, _, hSegments⟩ := exists_segments h
  exact List.all_eq_true.mpr (segments_isNamed hSegments)

theorem ofType_isNamed {moduleName typeName : String} {p : Path} (h : Path.ofType moduleName typeName = .ok p) :
    p.isNamed := by
  rw [Path.ofType] at h
  split at h <;> exact parse_isNamed h

end RowFactory.Code
