import Mathlib.Computability.RegularExpressions
import RowFactory.Code.Grammar
import RowFactory.Proofs.Code.Words

/-! # Names that are identifiers

The names that become identifiers are given by a regular expression, less a few words. Such a name is a word, so that
an identifier can be made of it with and without the raw mark. It has the mark exactly if it is not read as an
identifier without one, and what is written for it is read as the identifier again.
-/

namespace RowFactory.Code

def oneOf (cs : List Char) : RegularExpression Char := (cs.map .char).sum

def letters : List Char := "ABCDEFGHIJKLMNOPQRSTUVWXYZabcdefghijklmnopqrstuvwxyz_".toList

def digits : List Char := "0123456789".toList

def plainName : RegularExpression Char := oneOf letters * (oneOf (letters ++ digits)).star

section Shape

variable {c : Char} {cs text : List Char}

theorem mem_oneOf : text ∈ (oneOf cs).matches' ↔ ∃ c ∈ cs, text = [c] := by
  induction cs with
  | nil => simp [oneOf]
  | cons c cs ih =>
    rw [oneOf, List.map_cons, List.sum_cons, ← oneOf, RegularExpression.matches'_add, Language.mem_add,
      RegularExpression.matches'_char, ih]
    simp only [List.mem_cons, exists_eq_or_imp]
    rfl

theorem mem_star_oneOf : text ∈ (oneOf cs).star.matches' ↔ ∀ c ∈ text, c ∈ cs := by
  rw [RegularExpression.matches'_star, Language.mem_kstar]
  constructor
  · rintro ⟨parts, rfl, hParts⟩ c hc
    obtain ⟨part, hPart, hc⟩ := List.mem_flatten.mp hc
    obtain ⟨d, hd, rfl⟩ := mem_oneOf.mp (hParts part hPart)
    rwa [List.mem_singleton.mp hc]
  · intro hText
    refine ⟨text.map ([·]), by simp [← List.flatMap_def], fun part hPart => ?_⟩
    obtain ⟨c, hc, rfl⟩ := List.mem_map.mp hPart
    exact mem_oneOf.mpr ⟨c, hText c hc, rfl⟩

theorem isAsciiWordStart_iff_mem : isAsciiWordStart c ↔ c ∈ letters := by
  have hLetters : letters.all isAsciiWordStart := by decide
  refine ⟨fun hc => ?_, List.all_eq_true.mp hLetters c⟩
  have hMem : ∀ c : Char, c.toNat < 128 → isAsciiWordStart c → c ∈ letters :=
    Text.forall_ascii (by decide +kernel)
  exact hMem c (toNat_lt_of_isAsciiWordRest (isAsciiWordRest_of_isAsciiWordStart hc)) hc

theorem isAsciiWordRest_iff_mem : isAsciiWordRest c ↔ c ∈ letters ++ digits := by
  have hLetters : (letters ++ digits).all isAsciiWordRest := by decide
  refine ⟨fun hc => ?_, List.all_eq_true.mp hLetters c⟩
  have hMem : ∀ c : Char, c.toNat < 128 → isAsciiWordRest c → c ∈ letters ++ digits :=
    Text.forall_ascii (by decide +kernel)
  exact hMem c (toNat_lt_of_isAsciiWordRest hc) hc

theorem isPlainName_iff_matches : isPlainName text ↔ text ∈ plainName.matches' := by
  rw [plainName, RegularExpression.matches'_mul, Language.mem_mul]
  simp only [mem_oneOf, mem_star_oneOf]
  cases text with
  | nil => simp [isPlainName]
  | cons c rest =>
    simp only [isPlainName, Bool.and_eq_true, List.all_eq_true, isAsciiWordStart_iff_mem, isAsciiWordRest_iff_mem]
    constructor
    · rintro ⟨hc, hRest⟩
      exact ⟨[c], ⟨c, hc, rfl⟩, rest, hRest, rfl⟩
    · rintro ⟨_, ⟨d, hd, rfl⟩, others, hOthers, hText⟩
      obtain ⟨rfl, rfl⟩ := List.cons.inj hText
      exact ⟨hd, hOthers⟩

end Shape

/-- Words that are no names, although their characters are those of one. -/
def reserved : List String := ["_", "self", "Self", "super", "crate"]

theorem isSome_ofName?_iff {name : String} :
    (Ident.ofName? name).isSome ↔ name.toList ∈ plainName.matches' ∧ name ∉ reserved := by
  have hUnnameable : unnameable.contains name ↔ name = "" ∨ name ∈ reserved := by
    rw [List.contains_iff_mem]
    exact List.mem_cons
  rw [Ident.ofName?, ← isPlainName_iff_matches]
  by_cases hName : unnameable.contains name
  · rw [if_pos hName]
    rcases hUnnameable.mp hName with rfl | hReserved
    · decide
    · simp [hReserved]
  · have hReserved : name ∉ reserved := fun hMem => hName (hUnnameable.mpr (.inr hMem))
    rw [if_neg hName]
    cases isPlainName name.toList <;> simp [hReserved]

/-- The identifier that a text is, with nothing after it. -/
def Ident.parse? (text : String) : Option Ident :=
  match lex text with
  | none => none
  | some tokens =>
    match Grammar.ident? tokens with
    | some (i, []) => some i
    | _ => none

section Words

variable {word name : String} {i : Ident}

theorem isWordRest_of_isWord {text : List Char} (h : IsWord text) {c : Char} (hc : c ∈ text) :
    isWordStart c ∨ isWordRest c := by
  cases text with
  | nil => cases hc
  | cons first rest =>
    rcases List.mem_cons.mp hc with rfl | hc
    · exact .inl h.1
    · exact .inr (h.2 c hc)

theorem identOf_plain (h : IsWord name.toList) : Grammar.identOf name = ⟨name, false⟩ := by
  unfold Grammar.identOf
  split
  · rename_i rest hText
    have hMark : '#' ∈ name.toList := by simp [hText]
    rcases isWordRest_of_isWord h hMark with hHash | hHash <;> exact absurd hHash (by decide)
  · rfl

theorem identOf_marked (name : String) : Grammar.identOf ("r#" ++ name) = ⟨name, true⟩ := by
  have hText : ("r#" ++ name).toList = 'r' :: '#' :: name.toList := String.toList_append
  unfold Grammar.identOf
  rw [hText]
  exact congrArg (Ident.mk · true) String.ofList_toList

theorem parse?_word (h : Spells word name) :
    Ident.parse? word = if word = "_" ∨ word ∈ keywords then none else some (Grammar.identOf word) := by
  have hLex : lex word = some [.word word] := by
    have hWords := lex_words (.cons h .nil) (List.cons_ne_nil word [])
    rwa [String.intercalate_singleton] at hWords
  have hIdent : Grammar.ident? [.word word] =
      if word = "_" ∨ word ∈ keywords then none else some (Grammar.identOf word, []) := by
    simp [Grammar.ident?]
  rw [Ident.parse?, hLex]
  by_cases hWord : word = "_" ∨ word ∈ keywords <;> simp [hIdent, hWord]

theorem spells_name (h : Ident.ofName? name = some i) : Spells name name :=
  ⟨.of_isPlainName (Ident.ofName?_eq_some h).1, .inl rfl⟩

theorem not_reserved (h : Ident.ofName? name = some i) : name ∉ reserved := fun hMem =>
  Ident.not_unnameable h (List.mem_cons_of_mem "" hMem)

theorem name_ne_underscore (h : Ident.ofName? name = some i) : name ≠ "_" := fun hName =>
  not_reserved h (hName ▸ List.mem_cons_self)

theorem cannotBeRaw_name (h : Ident.ofName? name = some i) : cannotBeRaw name.toList = false := by
  have hReserved := not_reserved h
  simp only [reserved, List.mem_cons, List.not_mem_nil, or_false, not_or] at hReserved
  rw [cannotBeRaw, String.ofList_toList]
  simp [hReserved]

theorem spells_text (h : Ident.ofName? name = some i) : Spells i.text name := by
  have hPlain := spells_name h
  have hRaw := cannotBeRaw_name h
  obtain ⟨-, rfl⟩ := Ident.ofName?_eq_some h
  rw [Ident.text]
  split
  · exact ⟨hPlain.1, .inr ⟨rfl, hRaw⟩⟩
  · exact hPlain

theorem text_notMem_keywords (h : Ident.ofName? name = some i) : i.text ∉ "_" :: keywords := by
  have hUnderscore := name_ne_underscore h
  obtain ⟨-, rfl⟩ := Ident.ofName?_eq_some h
  rw [Ident.text]
  split
  · -- No keyword has a mark as its second character.
    have hMarks : ∀ word ∈ "_" :: keywords, word.toList[1]? ≠ some '#' := by decide
    intro hMem
    apply hMarks _ hMem
    rw [String.toList_append]
    rfl
  · rename_i hKeyword
    rw [List.mem_cons, not_or]
    exact ⟨hUnderscore, by simpa using hKeyword⟩

theorem identOf_text (h : Ident.ofName? name = some i) : Grammar.identOf i.text = i := by
  have hWord := (spells_name h).1
  obtain ⟨-, rfl⟩ := Ident.ofName?_eq_some h
  rw [Ident.text]
  cases hKeyword : keywords.contains name with
  | true => exact identOf_marked name
  | false => exact identOf_plain hWord

theorem parse?_text (h : Ident.ofName? name = some i) : Ident.parse? i.text = some i := by
  have hText := text_notMem_keywords h
  rw [List.mem_cons] at hText
  rw [parse?_word (spells_text h), if_neg hText, identOf_text h]

theorem parse?_name_eq_none_iff (h : Ident.ofName? name = some i) : Ident.parse? name = none ↔ name ∈ keywords := by
  rw [parse?_word (spells_name h)]
  simp [name_ne_underscore h]

end Words

/-- Makers of identifiers, plain and with the raw mark. They make one of each word, but for a few words that cannot bear
the mark; `none` means that making it stops the program. -/
structure Makes (make : Bool → String → Option Ident) : Prop where
  result {raw : Bool} {name : String} {i : Ident} : make raw name = some i → i = ⟨name, raw⟩
  plain {name : String} : make false name = none → ¬ IsWord name.toList
  marked {name : String} : make true name = none → ¬ IsWord name.toList ∨ name ∈ reserved

/-- The identifier is the one of the name. Making it does not stop the program, whether it has the mark or not. It has
the name, also as it is written, and it is read again from what is written. It has the mark exactly if the name is a
keyword, which is not read as an identifier. -/
structure IsIdentOf (make : Bool → String → Option Ident) (name : String) (i : Ident) : Prop where
  makes (raw : Bool) : (make raw name).isSome
  made : make i.raw name = some i
  sameName : i.name = name
  written : Grammar.identOf i.text = i
  read : Ident.parse? i.text = some i
  keyword : i.raw ↔ name ∈ keywords
  unread : i.raw ↔ Ident.parse? name = none

section Identifiers

variable {make : Bool → String → Option Ident} {name : String} {i : Ident}

theorem Makes.isSome (hMake : Makes make) (h : Ident.ofName? name = some i) (raw : Bool) : (make raw name).isSome := by
  rw [Option.isSome_iff_ne_none]
  intro hNone
  have hWord := (spells_name h).1
  cases raw with
  | false => exact hMake.plain hNone hWord
  | true => exact (hMake.marked hNone).elim (· hWord) (not_reserved h)

theorem Makes.isIdentOf (hMake : Makes make) (h : Ident.ofName? name = some i) : IsIdentOf make name i := by
  obtain ⟨-, hIdent⟩ := Ident.ofName?_eq_some h
  have hKeyword : i.raw ↔ name ∈ keywords := by rw [hIdent, List.contains_iff_mem]
  refine ⟨hMake.isSome h, ?_, congrArg Ident.name hIdent, identOf_text h, parse?_text h, hKeyword, ?_⟩
  · obtain ⟨made, hMade⟩ := Option.isSome_iff_exists.mp (hMake.isSome h i.raw)
    rw [hMade, hMake.result hMade, hIdent]
  · rw [hKeyword, parse?_name_eq_none_iff h]

/-- A name becomes an identifier exactly if it consists of letters and digits, the first of which is no digit, and is
not one of five words. The identifier is the one of the name, so that different names become identifiers that differ
by more than the mark. -/
theorem ident_exact (hMake : Makes make) (table name : String) :
    ((∃ i, ident table name = .ok i) ↔ name.toList ∈ plainName.matches' ∧ name ∉ reserved) ∧
    (∀ i, ident table name = .ok i → IsIdentOf make name i) ∧
    (∀ e, ident table name = .error e → e = .invalidIdentifier table name) ∧
    ∀ otherTable other i j, ident table name = .ok i → ident otherTable other = .ok j →
      (Grammar.identOf i.text).name = (Grammar.identOf j.text).name → name = other := by
  refine ⟨?_, fun i hIdent => hMake.isIdentOf (ident_eq_ok.mp hIdent), ?_, ?_⟩
  · simp only [ident_eq_ok]
    rw [← Option.isSome_iff_exists, isSome_ofName?_iff]
  · intro e hError
    rw [ident] at hError
    split at hError <;> cases hError
    rfl
  · intro otherTable other i j hIdent hOther hName
    rwa [identOf_text (ident_eq_ok.mp hIdent), identOf_text (ident_eq_ok.mp hOther), ident_name hIdent,
      ident_name hOther] at hName

/-- Makers that stop the program whenever they may. -/
def strictMaker (raw : Bool) (name : String) : Option Ident :=
  if IsWord name.toList ∧ (raw → name ∉ reserved) then some ⟨name, raw⟩ else none

theorem makes_strictMaker : Makes strictMaker where
  result {raw name i} h := by
    rw [strictMaker] at h
    split at h
    · exact (Option.some.inj h).symm
    · cases h
  plain {name} h hWord := by
    simp [strictMaker, hWord] at h
  marked {name} h := by
    simp only [strictMaker, forall_const, ite_eq_right_iff, reduceCtorEq, imp_false, not_and, not_not] at h
    exact Decidable.not_or_of_imp h

theorem ident_exact_type :
    Makes strictMaker ∧ ident "posts" "type" = .ok ⟨"type", true⟩ ∧ IsIdentOf strictMaker "type" ⟨"type", true⟩ := by
  have hIdent : ident "posts" "type" = .ok ⟨"type", true⟩ := by decide
  exact ⟨makes_strictMaker, hIdent, (ident_exact makes_strictMaker "posts" "type").2.1 _ hIdent⟩

end Identifiers

end RowFactory.Code
