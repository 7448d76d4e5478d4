import Mathlib.Data.List.Forall2
import RowFactory.Code.Lexer
import RowFactory.Proofs.Code.Idents

/-! # Words in a text

A word is read back from a text in which it is followed by a separator or by nothing at all, whatever letters it is made
of and whether it has a raw mark or not.
-/

namespace RowFactory.Code

def IsWord : List Char → Prop
  | [] => False
  | c :: rest => isWordStart c ∧ ∀ d ∈ rest, isWordRest d

instance : DecidablePred IsWord
  | [] => isFalse id
  | c :: rest => decidable_of_iff (isWordStart c ∧ rest.all isWordRest) (and_congr_right' List.all_eq_true)

theorem isWord_iff {text : List Char} : isWord text ↔ IsWord text := by
  cases text with
  | nil => simp [isWord, IsWord]
  | cons c rest => rw [isWord, IsWord, Bool.and_eq_true, List.all_eq_true]

/-- A name as it is written in code. -/
def Spells (word name : String) : Prop :=
  IsWord name.toList ∧ (word = name ∨ word = "r#" ++ name ∧ cannotBeRaw name.toList = false)

/-- The text is over, or a separator begins it. -/
def Ended (text : List Char) : Prop := ∀ c, text.head? = some c → c = ':'

/-- A word may go on, but no quote or mark comes directly after it. -/
def Bounded (text : List Char) : Prop := Ended (text.dropWhile isWordRest)

section Characters

variable {c d : Char}

theorem isAscii_of_isAsciiWordRest (hc : isAsciiWordRest c) : Text.isAscii c :=
  decide_eq_true (toNat_lt_of_isAsciiWordRest hc)

theorem isWordRest_of_ascii (hc : isAsciiWordRest c) : isWordRest c := by
  rw [isWordRest, if_pos (isAscii_of_isAsciiWordRest hc)]
  exact hc

theorem isWordStart_of_ascii (hc : isAsciiWordStart c) : isWordStart c := by
  rw [isWordStart, if_pos (isAscii_of_isAsciiWordRest (isAsciiWordRest_of_isAsciiWordStart hc))]
  exact hc

theorem IsWord.of_isPlainName {text : List Char} (h : isPlainName text) : IsWord text := by
  cases text with
  | nil => cases h
  | cons c rest =>
    obtain ⟨hStart, hRest⟩ := Bool.and_eq_true_iff.mp h
    exact ⟨isWordStart_of_ascii hStart, fun d hd => isWordRest_of_ascii (List.all_eq_true.mp hRest d hd)⟩

theorem Ident.isName_of_ofName? {name : String} {i : Ident} (h : Ident.ofName? name = some i) : i.isName := by
  obtain ⟨hPlain, rfl⟩ := Ident.ofName?_eq_some h
  have hWord := isWord_iff.mpr (.of_isPlainName hPlain)
  simp [Ident.isName, hWord, Ident.not_unnameable h, Bool.or_not_self]

theorem ne_of_isWordStart (hc : isWordStart c) (hd : isWordStart d = false) : c ≠ d := by
  rintro rfl
  rw [hc] at hd
  cases hd

theorem isDigit_of_isWordStart (hc : isWordStart c) : c.isDigit = false := by
  rw [Bool.eq_false_iff]
  intro hDigit
  have hAscii : c.toNat < 128 := Text.toNat_lt_of_isAlphanum (by simp [Char.isAlphanum, hDigit])
  have hStart : ∀ c : Char, c.toNat < 128 → c.isDigit → isWordStart c = false := Text.forall_ascii (by decide)
  rw [hStart c hAscii hDigit] at hc
  cases hc

theorem toNat_lt_of_isHexDigit (hc : isHexDigit c) : c.toNat < 128 := by
  simp only [isHexDigit, Char.isDigit, Bool.or_eq_true, Bool.and_eq_true, decide_eq_true_eq, Char.le_def,
    UInt32.le_iff_toNat_le] at hc
  change c.val.toNat < 128
  have hDigits : 'f'.val.toNat < 128 ∧ 'F'.val.toNat < 128 := by decide
  rcases hc with (hc | hc) | hc
  · have hNine : (57 : UInt32).toNat < 128 := by decide
    exact Nat.lt_of_le_of_lt hc.2 hNine
  · exact Nat.lt_of_le_of_lt hc.2 hDigits.1
  · exact Nat.lt_of_le_of_lt hc.2 hDigits.2

theorem hexDigit_of_isWordStart (hc : isWordStart c) (hHex : isHexDigit c) : 10 ≤ hexDigit c := by
  have hDigit : ∀ c : Char, c.toNat < 128 → isWordStart c → isHexDigit c → 10 ≤ hexDigit c :=
    Text.forall_ascii (by decide)
  exact hDigit c (toNat_lt_of_isHexDigit hHex) hc hHex

/-- The numbers of the characters that are white space, and of the mark that may begin a text. -/
def blanks : List Nat :=
  [9, 10, 11, 12, 13, 0x20, 0x85, 0xA0, 0x1680, 0x2000, 0x2001, 0x2002, 0x2003, 0x2004, 0x2005, 0x2006, 0x2007, 0x2008,
    0x2009, 0x200A, 0x200E, 0x200F, 0x2028, 0x2029, 0x202F, 0x205F, 0x3000, 0xFEFF]

theorem isWordStart_blank {n : Nat} (hn : n ∈ blanks) : isWordStart (Char.ofNat n) = false := by
  have hNumber : ∀ n ∈ blanks, (Char.ofNat n).toNat = n := by decide
  have hLetter : ∀ n ∈ blanks, n < 128 → isWordStart (Char.ofNat n) = false := by decide
  have hTable : Text.identifierStartRanges.toList.all fun range => blanks.all fun n => n < range.1 || range.2 < n := by
    decide +kernel
  by_cases hAscii : n < 128
  · exact hLetter n hn hAscii
  · rw [isWordStart, Text.isAscii, hNumber n hn, if_neg (by simpa using hAscii), Text.inRanges, ← Array.any_toList,
      List.any_eq_false]
    intro range hRange
    have hOutside := List.all_eq_true.mp (List.all_eq_true.mp hTable range hRange) n hn
    simp only [Bool.or_eq_true, decide_eq_true_eq] at hOutside
    simpa using by omega

theorem isSpace_of_isWordStart (hc : isWordStart c) : isSpace c = false := by
  rw [Bool.eq_false_iff]
  intro hSpace
  have hBlank : c.toNat ∈ blanks := by
    simp only [isSpace, Text.isBlank, Bool.or_eq_true, Bool.and_eq_true, decide_eq_true_eq, beq_iff_eq] at hSpace
    simp only [blanks, List.mem_cons, List.not_mem_nil, or_false]
    rcases hSpace with (hSpace | rfl) | rfl
    · omega
    · decide
    · decide
  have hStart := isWordStart_blank hBlank
  rw [Char.ofNat_toNat, hc] at hStart
  cases hStart

end Characters

section Literals

variable {c d : Char} {text : List Char}

theorem Bounded.tail (h : Bounded (c :: text)) (hc : isWordRest c) : Bounded text := by
  rwa [Bounded, List.dropWhile_cons_of_pos hc] at h

theorem Bounded.head_ne (h : Bounded (c :: text)) (hd : isWordRest d = false) (hColon : d ≠ ':') : c ≠ d := by
  rintro rfl
  rw [Bounded, List.dropWhile_cons_of_neg (by simp [hd])] at h
  exact hColon (h c rfl)

theorem hashed?_eq_none (rules : QuoteRules) (h : Bounded text) : hashed? rules text = none := by
  cases text with
  | nil => rfl
  | cons c rest =>
    have hHash : c ≠ '#' := h.head_ne (by decide) (by decide)
    have hQuote : c ≠ '"' := h.head_ne (by decide) (by decide)
    simp [hashed?, hHash, hQuote]

theorem hashed?_raw (rules : QuoteRules) (hc : isWordStart c) : hashed? rules ('#' :: c :: text) = none := by
  have hHash : c ≠ '#' := ne_of_isWordStart hc (by decide)
  have hQuote : c ≠ '"' := ne_of_isWordStart hc (by decide)
  simp [hashed?, hHash, hQuote]

theorem integer?_eq_none (hc : isWordStart c) : integer? (c :: text) = none := by
  have hZero : c ≠ '0' := ne_of_isWordStart hc (by decide)
  have hDigits : digits? 10 true (c :: text) = none := by
    rw [digits?]
    by_cases hUnderscore : c = '_'
    · simp [hUnderscore]
    · have hHex : ¬ (isHexDigit c ∧ hexDigit c < 10) := by
        rintro ⟨hHex, hLess⟩
        exact absurd (hexDigit_of_isWordStart hc hHex) (Nat.not_le.mpr hLess)
      simp only [if_neg hUnderscore, isDigit_of_isWordStart hc, Bool.false_eq_true, if_false, Bool.and_eq_true,
        decide_eq_true_eq, if_neg hHex, if_true]
  unfold integer?
  simp [hZero, hDigits]

/-- What begins like a word is no literal, unless a quote or a mark follows the letters that literals begin with. -/
theorem literal?_eq_none (hc : isWordStart c) (hRaw : c = 'r' → hashed? textRules text = none)
    (hText : c ≠ 'r' → Bounded text) : literal? (c :: text) = none := by
  have hFloat : float? (c :: text) = none := by simp [float?, isDigit_of_isWordStart hc]
  have hQuote : c ≠ '"' := ne_of_isWordStart hc (by decide)
  have hApostrophe : c ≠ '\'' := ne_of_isWordStart hc (by decide)
  have hNext {d e : Char} {rest : List Char} (hStart : c :: text = d :: e :: rest) (hd : d ≠ 'r') :
      Bounded (e :: rest) := by
    obtain ⟨rfl, rfl⟩ := List.cons.inj hStart
    exact hText hd
  unfold literal?
  rw [hFloat, integer?_eq_none hc]
  simp only [Option.orElse_eq_orElse, Option.orElse_eq_or, Option.or_eq_none_iff, Option.map_eq_map, Option.map_none,
    and_true]
  refine ⟨?_, ?_, ?_⟩
  · split
    · rename_i hStart
      exact absurd (List.cons.inj hStart).1 hQuote
    · rename_i hStart
      rw [← (List.cons.inj hStart).2, hRaw (List.cons.inj hStart).1]
      rfl
    · rfl
  · split
    · rename_i hStart
      exact absurd rfl ((hNext hStart (by decide)).head_ne (by decide) (by decide))
    · rename_i hStart
      rw [hashed?_eq_none _ ((hNext hStart (by decide)).tail (by decide)), Option.map_none]
    · rename_i hStart
      exact absurd rfl ((hNext hStart (by decide)).head_ne (by decide) (by decide))
    · rename_i hStart
      rw [hashed?_eq_none _ ((hNext hStart (by decide)).tail (by decide)), Option.map_none]
    · rfl
  · split
    · rename_i hStart
      exact absurd rfl ((hNext hStart (by decide)).head_ne (by decide) (by decide))
    · rename_i hStart
      exact absurd (List.cons.inj hStart).1 hApostrophe
    · rfl

end Literals

section Words

variable {name rest : List Char}

theorem Ended.bounded_append (hName : ∀ d ∈ name, isWordRest d) (h : Ended rest) : Bounded (name ++ rest) := by
  rw [Bounded, List.dropWhile_append_of_pos hName]
  cases rest with
  | nil => exact h
  | cons c rest =>
    have hColon : c = ':' := h c rfl
    subst hColon
    exact h

theorem plainWord?_append (hName : IsWord name) (h : Ended rest) : plainWord? (name ++ rest) = some (name, rest) := by
  cases name with
  | nil => cases hName
  | cons c name =>
    obtain ⟨hStart, hName⟩ := hName
    have hTake : rest.takeWhile isWordRest = [] ∧ rest.dropWhile isWordRest = rest := by
      cases rest with
      | nil => exact ⟨rfl, rfl⟩
      | cons d rest =>
        have hColon : d = ':' := h d rfl
        subst hColon
        exact ⟨rfl, rfl⟩
    rw [List.cons_append, plainWord?, if_pos hStart, List.takeWhile_append_of_pos hName,
      List.dropWhile_append_of_pos hName, hTake.1, hTake.2, List.append_nil]

theorem not_literalStart_plain {c : Char} {text : List Char} (h : Bounded text) :
    literalStarts.any (·.isPrefixOf (c :: text)) = false := by
  cases text with
  | nil => simp [literalStarts, List.isPrefixOf]
  | cons d text =>
    have hd : d ≠ '"' ∧ d ≠ '#' ∧ d ≠ '\'' :=
      ⟨h.head_ne (by decide) (by decide), h.head_ne (by decide) (by decide), h.head_ne (by decide) (by decide)⟩
    by_cases hLetter : d = 'r'
    · subst hLetter
      have hText := h.tail (by decide)
      cases text with
      | nil => simp [literalStarts, List.isPrefixOf]
      | cons e text =>
        have he : e ≠ '"' ∧ e ≠ '#' :=
          ⟨hText.head_ne (by decide) (by decide), hText.head_ne (by decide) (by decide)⟩
        simp [literalStarts, List.isPrefixOf, he.1.symm, he.2.symm]
    · simp [literalStarts, List.isPrefixOf, hd.1.symm, hd.2.1.symm, hd.2.2.symm, Ne.symm hLetter]

theorem mark?_eq_none {c : Char} {text : List Char} (hc : isWordStart c) : mark? (c :: text) = none := by
  have hSymbols : markSymbols.all fun d => !isWordStart d := by decide
  have hSlash : c ≠ '/' := ne_of_isWordStart hc (by decide)
  unfold mark?
  split
  · rename_i hStart
    exact absurd (List.cons.inj hStart).1 hSlash
  · rename_i hStart
    exact absurd (List.cons.inj hStart).1 hSlash
  · rename_i hStart
    obtain ⟨rfl, rfl⟩ := List.cons.inj hStart
    have hSymbol : markSymbols.contains c = false := by
      rw [List.contains_eq_mem, decide_eq_false_iff_not]
      intro hMem
      exact ne_of_isWordStart hc (by simpa using List.all_eq_true.mp hSymbols c hMem) rfl
    rw [hSymbol]
    rfl
  · rfl

theorem leaf?_plain (hName : IsWord name) (h : Ended rest) :
    leaf? (name ++ rest) = some (.word (String.ofList name), rest) := by
  have hPlain := plainWord?_append hName h
  cases name with
  | nil => cases hName
  | cons c name =>
    obtain ⟨hc, hName⟩ := hName
    have hText : Bounded (name ++ rest) := h.bounded_append hName
    have hAny : anyWord? (c :: (name ++ rest)) = plainWord? (c :: (name ++ rest)) := by
      rw [anyWord?]
      intro more hMore
      rw [(List.cons.inj hMore).2] at hText
      exact absurd rfl (hText.head_ne (by decide) (by decide))
    rw [List.cons_append] at hPlain ⊢
    rw [leaf?, literal?_eq_none hc (fun _ => hashed?_eq_none _ hText) fun _ => hText, punctuation?, mark?_eq_none hc,
      word?, not_literalStart_plain hText, hAny, hPlain]
    rfl

theorem leaf?_raw (hName : IsWord name) (hRaw : cannotBeRaw name = false) (h : Ended rest) :
    leaf? ('r' :: '#' :: (name ++ rest)) = some (.word (String.ofList ('r' :: '#' :: name)), rest) := by
  have hPlain := plainWord?_append hName h
  have hr : isWordStart 'r' := by decide
  cases name with
  | nil => cases hName
  | cons c name =>
    have hc : c ≠ '"' ∧ c ≠ '#' := ⟨ne_of_isWordStart hName.1 (by decide), ne_of_isWordStart hName.1 (by decide)⟩
    have hStart : literalStarts.any (·.isPrefixOf ('r' :: '#' :: (c :: name ++ rest))) = false := by
      simp [literalStarts, List.isPrefixOf, hc.1.symm, hc.2.symm]
    have hLiteral : literal? ('r' :: '#' :: (c :: name ++ rest)) = none :=
      literal?_eq_none hr (fun _ => hashed?_raw _ hName.1) fun hDiffer => absurd rfl hDiffer
    rw [leaf?, hLiteral, punctuation?, mark?_eq_none hr, word?, hStart, anyWord?, hPlain]
    simp only [hRaw, Bool.false_eq_true, if_false, Option.map_some]

theorem leaf?_word {word name : String} (hWord : Spells word name) (h : Ended rest) :
    leaf? (word.toList ++ rest) = some (.word word, rest) := by
  obtain ⟨hName, rfl | ⟨rfl, hRaw⟩⟩ := hWord
  · rw [leaf?_plain hName h, String.ofList_toList]
  · have hText : ("r#" ++ name).toList = 'r' :: '#' :: name.toList := String.toList_append
    rw [hText, List.cons_append, List.cons_append, leaf?_raw hName hRaw h, ← hText, String.ofList_toList]

theorem leaf?_colon (text : List Char) : leaf? (':' :: text) = some (.mark ':' (mark? text).isSome, text) := by
  have hLiteral : literal? (':' :: text) = none := rfl
  rw [leaf?, hLiteral, punctuation?]
  rfl

end Words

section Tokens

structure BeginsLeaf (c : Char) : Prop where
  noSpace : isSpace c = false
  noSlash : c ≠ '/'
  noOpening : Delimiter.ofOpening? c = none
  noClosing : Delimiter.ofClosing? c = none

theorem beginsLeaf_of_isWordStart {c : Char} (hc : isWordStart c) : BeginsLeaf c where
  noSpace := isSpace_of_isWordStart hc
  noSlash := ne_of_isWordStart hc (by decide)
  noOpening := by
    fun_cases Delimiter.ofOpening? c <;> first | rfl | exact absurd hc (by decide)
  noClosing := by
    fun_cases Delimiter.ofClosing? c <;> first | rfl | exact absurd hc (by decide)

theorem beginsLeaf_colon : BeginsLeaf ':' where
  noSpace := by decide
  noSlash := by decide
  noOpening := rfl
  noClosing := rfl

theorem Spells.exists_head {word name : String} (h : Spells word name) :
    ∃ c rest, word.toList = c :: rest ∧ isWordStart c := by
  obtain ⟨hName, rfl | ⟨rfl, _⟩⟩ := h
  · cases hList : word.toList with
    | nil =>
      rw [hList] at hName
      cases hName
    | cons c rest =>
      rw [hList] at hName
      exact ⟨c, rest, rfl, hName.1⟩
  · exact ⟨'r', _, String.toList_append, by decide⟩

variable {c : Char} {text rest : List Char}

theorem skipSpace_nil (fuel : Nat) : skipSpace fuel [] = [] := by
  cases fuel <;> rfl

theorem skipSpace_eq (hc : BeginsLeaf c) (fuel : Nat) : skipSpace fuel (c :: text) = c :: text := by
  have hSlash := hc.noSlash
  have hComment : plainComment? (c :: text) = none := by
    unfold plainComment?
    split <;> simp_all
  cases fuel with
  | zero => rfl
  | succ fuel => simp [skipSpace, hComment, hc.noSpace]

theorem documentation?_eq_none (hc : BeginsLeaf c) : documentation? (c :: text) = none := by
  have hSlash := hc.noSlash
  unfold documentation?
  split <;> simp_all

theorem lexAll_leaf (hc : BeginsLeaf c) {token : Token} (hLeaf : leaf? (c :: text) = some (token, rest)) (fuel : Nat)
    (opened : List Delimiter) (done : List Token) :
    lexAll (fuel + 1) opened done (c :: text) = lexAll fuel opened (token :: done) rest := by
  rw [lexAll, skipSpace_eq hc]
  simp only [documentation?_eq_none hc, hc.noOpening, hc.noClosing, hLeaf]

def wordTokens : List String → List Token
  | [] => []
  | [word] => [.word word]
  | word :: rest => .word word :: .mark ':' true :: .mark ':' false :: wordTokens rest

theorem toList_intercalate_cons (word next : String) (others : List String) :
    ("::".intercalate (word :: next :: others)).toList =
      word.toList ++ ':' :: ':' :: ("::".intercalate (next :: others)).toList := by
  rw [String.toList_intercalate, String.toList_intercalate, List.map_cons, List.map_cons, List.intercalate_cons_cons,
    List.append_assoc]
  rfl

theorem exists_head {words names : List String} (h : List.Forall₂ Spells words names) (hWords : words ≠ []) :
    ∃ c rest, ("::".intercalate words).toList = c :: rest ∧ isWordStart c := by
  cases h with
  | nil => exact absurd rfl hWords
  | @cons word _ words _ hWord _ =>
    obtain ⟨c, text, hText, hStart⟩ := hWord.exists_head
    cases words with
    | nil => exact ⟨c, text, by simp [hText], hStart⟩
    | cons next others => exact ⟨c, _, by rw [toList_intercalate_cons, hText, List.cons_append], hStart⟩

theorem lexAll_word {word name : String} (hWord : Spells word name) (hRest : Ended rest) (fuel : Nat)
    (done : List Token) :
    lexAll (fuel + 1) [] done (word.toList ++ rest) = lexAll fuel [] (.word word :: done) rest := by
  obtain ⟨c, text, hText, hStart⟩ := hWord.exists_head
  have hLeaf := leaf?_word hWord hRest
  rw [hText, List.cons_append] at hLeaf ⊢
  exact lexAll_leaf (beginsLeaf_of_isWordStart hStart) hLeaf fuel [] done

theorem lexAll_separator (hc : isWordStart c) (fuel : Nat) (done : List Token) :
    lexAll (fuel + 2) [] done (':' :: ':' :: c :: text) =
      lexAll fuel [] (.mark ':' false :: .mark ':' true :: done) (c :: text) := by
  have hJoint : mark? (':' :: c :: text) = some (':', c :: text) := rfl
  rw [lexAll_leaf beginsLeaf_colon (leaf?_colon _), lexAll_leaf beginsLeaf_colon (leaf?_colon _), hJoint,
    mark?_eq_none hc]
  rfl

theorem lexAll_words {words names : List String} (h : List.Forall₂ Spells words names) (hWords : words ≠ [])
    {fuel : Nat} (hFuel : ("::".intercalate words).toList.length < fuel) (done : List Token) :
    lexAll fuel [] done ("::".intercalate words).toList = some (done.reverse ++ wordTokens words) := by
  induction h generalizing fuel done with
  | nil => exact absurd rfl hWords
  | @cons word name words names hWord hRest ih =>
    obtain ⟨c, text, hText, hStart⟩ := hWord.exists_head
    have hLength : 0 < word.toList.length := by simp [hText]
    cases words with
    | nil =>
      have hAll : ("::".intercalate [word]).toList = word.toList ++ [] := by simp
      rw [hAll] at hFuel ⊢
      rw [List.length_append] at hFuel
      obtain ⟨fuel, rfl⟩ : ∃ n, fuel = n + 2 := ⟨fuel - 2, by omega⟩
      rw [lexAll_word hWord (by simp [Ended])]
      simp [lexAll, skipSpace_nil, wordTokens]
    | cons next others =>
      -- A word and the two marks behind it are three steps, and they leave the text of the other words.
      obtain ⟨d, more, hMore, hNext⟩ := exists_head hRest (List.cons_ne_nil next others)
      rw [toList_intercalate_cons, List.length_append, List.length_cons, List.length_cons] at hFuel
      obtain ⟨fuel, rfl⟩ : ∃ n, fuel = n + 3 := ⟨fuel - 3, by omega⟩
      rw [toList_intercalate_cons, lexAll_word hWord (by simp [Ended]), hMore, lexAll_separator hNext, ← hMore,
        ih (List.cons_ne_nil next others) (by omega)]
      simp [wordTokens]

/-- A text of words joined by separators is cut at the separators. -/
theorem lex_words {words names : List String} (h : List.Forall₂ Spells words names) (hWords : words ≠ []) :
    lex ("::".intercalate words) = some (wordTokens words) := by
  obtain ⟨c, text, hText, hStart⟩ := exists_head h hWords
  have hMark : dropMark ("::".intercalate words).toList = ("::".intercalate words).toList := by
    have hc : c ≠ '\ufeff' := ne_of_isWordStart hStart (isWordStart_blank (by decide : '\ufeff'.toNat ∈ blanks))
    rw [hText]
    simp [dropMark, hc]
  rw [lex, hMark]
  exact lexAll_words h hWords (Nat.lt_succ_self _) []

end Tokens

end RowFactory.Code
