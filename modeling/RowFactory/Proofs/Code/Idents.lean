import RowFactory.Code.Ident
import RowFactory.Proofs.Text.Casing

/-! # Identifiers keep their names -/

namespace RowFactory.Code

theorem Ident.ofName?_eq_some {name : String} {i : Ident} (h : Ident.ofName? name = some i) :
    isPlainName name.toList ∧ i = ⟨name, keywords.contains name⟩ := by
  rw [Ident.ofName?] at h
  split at h
  · cases h
  · split at h
    · rename_i hPlain
      cases h
      exact ⟨hPlain, rfl⟩
    · cases h

theorem Ident.not_unnameable {name : String} {i : Ident} (h : Ident.ofName? name = some i) :
    name ∉ unnameable := by
  intro hMem
  rw [Ident.ofName?, List.contains_eq_mem, if_pos (decide_eq_true hMem)] at h
  cases h

theorem ident_eq_ok {table name : String} {i : Ident} :
    ident table name = .ok i ↔ Ident.ofName? name = some i := by
  rw [ident]
  cases Ident.ofName? name <;> simp

theorem ident_name {table name : String} {i : Ident} (h : ident table name = .ok i) : i.name = name := by
  rw [(Ident.ofName?_eq_some (ident_eq_ok.mp h)).2]

theorem isPlainName_of_ident {table name : String} {i : Ident} (h : ident table name = .ok i) :
    isPlainName name.toList :=
  (Ident.ofName?_eq_some (ident_eq_ok.mp h)).1

theorem isAsciiWordRest_of_isAsciiWordStart {c : Char} (h : isAsciiWordStart c) : isAsciiWordRest c := by
  rw [isAsciiWordStart, Bool.or_eq_true] at h
  rw [isAsciiWordRest, Char.isAlphanum, Bool.or_eq_true, Bool.or_eq_true]
  exact h.imp_left .inl

theorem toNat_lt_of_isAsciiWordRest {c : Char} (h : isAsciiWordRest c) : c.toNat < 128 := by
  rcases Bool.or_eq_true_iff.mp h with hAlphanum | hUnderscore
  · exact Text.toNat_lt_of_isAlphanum hAlphanum
  · rw [beq_iff_eq.mp hUnderscore]
    decide

theorem isAsciiWordRest_of_mem {text : List Char} (h : isPlainName text) {c : Char} (hc : c ∈ text) :
    isAsciiWordRest c := by
  cases text with
  | nil => cases hc
  | cons first rest =>
    obtain ⟨hFirst, hRest⟩ := Bool.and_eq_true_iff.mp h
    rcases List.mem_cons.mp hc with rfl | hc
    · exact isAsciiWordRest_of_isAsciiWordStart hFirst
    · exact List.all_eq_true.mp hRest c hc

theorem isAsciiWordRest_of_ofName? {name : String} {i : Ident} (h : Ident.ofName? name = some i) {c : Char}
    (hc : c ∈ name.toList) : isAsciiWordRest c :=
  isAsciiWordRest_of_mem (Ident.ofName?_eq_some h).1 hc

theorem isAsciiWordStart_of_head? {text : List Char} (h : isPlainName text) {c : Char} (hc : text.head? = some c) :
    isAsciiWordStart c := by
  cases text with
  | nil => cases hc
  | cons first rest =>
    cases hc
    exact (Bool.and_eq_true_iff.mp h).1

theorem isPlainName_of_chars {text : List Char} (hStart : ∀ c, text.head? = some c → isAsciiWordStart c)
    (hRest : ∀ c ∈ text, isAsciiWordRest c) (hText : text ≠ []) : isPlainName text := by
  cases text with
  | nil => exact absurd rfl hText
  | cons first rest =>
    rw [isPlainName, Bool.and_eq_true, List.all_eq_true]
    exact ⟨hStart first rfl, fun c hc => hRest c (List.mem_cons_of_mem first hc)⟩

theorem isAsciiWordStart_toLower {c : Char} (h : isAsciiWordStart c) : isAsciiWordStart c.toLower := by
  have hLower : ∀ c : Char, c.toNat < 128 → isAsciiWordStart c → isAsciiWordStart c.toLower :=
    Text.forall_ascii (by decide)
  exact hLower c (toNat_lt_of_isAsciiWordRest (isAsciiWordRest_of_isAsciiWordStart h)) h

theorem keywords_not_marker (stem : String) : keywords.contains ("With" ++ stem) = false := by
  have hKeywords : ∀ word ∈ keywords, word.toList.head? ≠ some 'W' := by decide
  rw [List.contains_eq_mem, decide_eq_false_iff_not]
  intro hMem
  apply hKeywords _ hMem
  rw [String.toList_append]
  rfl

end RowFactory.Code
