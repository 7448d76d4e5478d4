import RowFactory.Text.Casing

/-! # Characters of recased names

The casing styles put no characters into a name but underscores and other cases of its own.
-/

namespace RowFactory.Text

theorem mem_of_mem_cutRun {mode : CaseMode} {word text piece : List Char} {c : Char}
    (hPiece : piece ∈ cutRun mode word text) (hc : c ∈ piece) : c ∈ word ∨ c ∈ text := by
  fun_induction cutRun mode word text with
  | case1 => simp at hPiece
  | case2 mode word h =>
    rw [List.mem_singleton.mp hPiece] at hc
    exact .inl (List.mem_reverse.mp hc)
  | case3 mode word first =>
    rw [List.mem_singleton.mp hPiece] at hc
    simpa [or_comm] using hc
  | case4 mode word first next rest _ _ ih =>
    rcases List.mem_cons.mp hPiece with rfl | hPiece
    · rcases List.mem_cons.mp (List.mem_reverse.mp hc) with rfl | hc
      · exact .inr List.mem_cons_self
      · exact .inl hc
    · rcases ih hPiece with hc | hc
      · cases hc
      · exact .inr (List.mem_cons_of_mem _ hc)
  | case5 mode word first next rest _ _ _ ih =>
    rcases List.mem_cons.mp hPiece with rfl | hPiece
    · exact .inl (List.mem_reverse.mp hc)
    · rcases ih hPiece with hc | hc
      · exact .inr (List.mem_singleton.mp hc ▸ List.mem_cons_self)
      · exact .inr (List.mem_cons_of_mem _ hc)
  | case6 mode word first next rest _ _ _ ih =>
    rcases ih hPiece with hc | hc
    · rcases List.mem_cons.mp hc with rfl | hc
      · exact .inr List.mem_cons_self
      · exact .inl hc
    · exact .inr (List.mem_cons_of_mem _ hc)

theorem mem_of_mem_runs {run text piece : List Char} {c : Char} (hPiece : piece ∈ runs run text)
    (hc : c ∈ piece) : c ∈ run ∨ c ∈ text := by
  fun_induction runs run text with
  | case1 run =>
    rw [List.mem_singleton.mp hPiece] at hc
    exact .inl (List.mem_reverse.mp hc)
  | case2 run first rest _ ih =>
    rcases ih hPiece with hc | hc
    · rcases List.mem_cons.mp hc with rfl | hc
      · exact .inr List.mem_cons_self
      · exact .inl hc
    · exact .inr (List.mem_cons_of_mem _ hc)
  | case3 run first rest _ ih =>
    rcases List.mem_cons.mp hPiece with rfl | hPiece
    · exact .inl (List.mem_reverse.mp hc)
    · rcases ih hPiece with hc | hc
      · cases hc
      · exact .inr (List.mem_cons_of_mem _ hc)

theorem mem_of_mem_words {name : String} {word : List Char} {c : Char} (hWord : word ∈ words name)
    (hc : c ∈ word) : c ∈ name.toList := by
  obtain ⟨run, hRun, hWord⟩ := List.mem_flatMap.mp hWord
  rcases mem_of_mem_cutRun hWord hc with hc | hc
  · cases hc
  · rcases mem_of_mem_runs hRun hc with hc | hc
    · cases hc
    · exact hc

theorem mem_lowercaseWord {word : List Char} {c : Char} (hc : c ∈ lowercaseWord word) :
    c = 'ς' ∨ ∃ d ∈ word, c ∈ lowercase d := by
  fun_induction lowercaseWord word with
  | case1 => cases hc
  | case2 => exact .inl (List.mem_singleton.mp hc)
  | case3 first rest _ ih =>
    rcases List.mem_append.mp hc with hc | hc
    · exact .inr ⟨first, List.mem_cons_self, hc⟩
    · rcases ih hc with hc | ⟨d, hd, hc⟩
      · exact .inl hc
      · exact .inr ⟨d, List.mem_cons_of_mem _ hd, hc⟩

theorem mem_intercalate {separator c : Char} {words : List (List Char)}
    (hc : c ∈ [separator].intercalate words) : c = separator ∨ ∃ word ∈ words, c ∈ word := by
  induction words with
  | nil => cases hc
  | cons word rest ih =>
    cases rest with
    | nil =>
      rw [List.intercalate_singleton] at hc
      exact .inr ⟨word, List.mem_cons_self, hc⟩
    | cons next others =>
      rw [List.intercalate_cons_cons, List.append_assoc] at hc
      rcases List.mem_append.mp hc with hc | hc
      · exact .inr ⟨word, List.mem_cons_self, hc⟩
      · rcases List.mem_cons.mp hc with hc | hc
        · exact .inl hc
        · rcases ih hc with hc | ⟨other, hOther, hc⟩
          · exact .inl hc
          · exact .inr ⟨other, List.mem_cons_of_mem _ hOther, hc⟩

theorem mem_snakeCase {name : String} {c : Char} (hc : c ∈ (snakeCase name).toList) :
    c = '_' ∨ c = 'ς' ∨ ∃ d ∈ name.toList, c ∈ lowercase d := by
  rw [snakeCase, String.toList_ofList] at hc
  rcases mem_intercalate hc with hc | ⟨lower, hLower, hc⟩
  · exact .inl hc
  · obtain ⟨word, hWord, rfl⟩ := List.mem_map.mp hLower
    rcases mem_lowercaseWord hc with hc | ⟨d, hd, hc⟩
    · exact .inr (.inl hc)
    · exact .inr (.inr ⟨d, mem_of_mem_words hWord hd, hc⟩)

theorem toNat_lt_of_isAlphanum {c : Char} (h : c.isAlphanum) : c.toNat < 128 := by
  have hBound (last : Char) (hLast : last.toNat < 128) (hc : c.val ≤ last.val) : c.toNat < 128 :=
    Nat.lt_of_le_of_lt (UInt32.le_iff_toNat_le.mp hc) hLast
  rcases Bool.or_eq_true_iff.mp h with hAlpha | hDigit
  · rcases Bool.or_eq_true_iff.mp hAlpha with hUpper | hLower
    · exact hBound 'Z' (by decide) (of_decide_eq_true hUpper).2
    · exact hBound 'z' (by decide) (of_decide_eq_true (Bool.and_eq_true_iff.mp hLower).2)
  · exact hBound '9' (by decide) (of_decide_eq_true (Bool.and_eq_true_iff.mp hDigit).2)

theorem forall_ascii {p : Char → Prop} (hAll : ∀ n < 128, p (Char.ofNat n)) (c : Char) (hc : c.toNat < 128) :
    p c := by
  have hChar := hAll c.toNat hc
  rwa [Char.ofNat_toNat] at hChar

theorem isAlphanum_toLower {c : Char} (h : c.isAlphanum) : c.toLower.isAlphanum := by
  have hLower : ∀ c : Char, c.toNat < 128 → c.isAlphanum → c.toLower.isAlphanum := forall_ascii (by decide)
  exact hLower c (toNat_lt_of_isAlphanum h) h

end RowFactory.Text
