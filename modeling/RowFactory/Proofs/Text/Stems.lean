import RowFactory.Proofs.Text.Casing

/-! # Stems of file names

Whatever a name is made of, its recased forms have no ASCII characters but letters, digits and underscores. A
recased name that begins an identifier has a snake case form that begins one, too.
-/

namespace RowFactory.Text

/-- The character is a letter or a digit, if it is an ASCII character. -/
def Wordly (c : Char) : Prop := isAscii c → c.isAlphanum

def isWordNumber (n : Nat) : Bool := (Char.ofNat n).isAlphanum || !isAscii (Char.ofNat n)

/-- All numbers between the two stand for characters, and none of them is an ASCII character. -/
def areBeyondAscii (first last : Nat) : Bool :=
  128 ≤ first && (last < 0xD800 || (0xDFFF < first && last < 0x110000))

def keepsWords (expansions : Array (Nat × List Nat)) (shifts : Array (Nat × Nat × Nat × Nat)) : Bool :=
  (expansions.all fun (_, image) => image.all isWordNumber) &&
    shifts.all fun (first, last, _, image) =>
      areBeyondAscii image (image + (last - first)) || (first = last && isWordNumber image)

theorem keepsWords_upper : keepsWords upperExpansions upperShifts := by decide +kernel

theorem keepsWords_lower : keepsWords lowerExpansions lowerShifts := by decide +kernel

theorem wordly_of_isWordNumber {n : Nat} (h : isWordNumber n) : Wordly (Char.ofNat n) := by
  intro hAscii
  simpa [isWordNumber, hAscii] using h

theorem isWordNumber_of_areBeyondAscii {first last n : Nat} (h : areBeyondAscii first last) (hFirst : first ≤ n)
    (hLast : n ≤ last) : isWordNumber n := by
  simp only [areBeyondAscii, Bool.and_eq_true, Bool.or_eq_true, decide_eq_true_eq] at h
  have hValid : n.isValidChar := by
    rw [Nat.isValidChar]
    omega
  have hNumber : (Char.ofNat n).toNat = n := by
    rw [Char.ofNat, dif_pos hValid]
    rfl
  rw [isWordNumber, isAscii, hNumber]
  simp only [Bool.or_eq_true, Bool.not_eq_true', decide_eq_false_iff_not]
  omega

theorem wordly_of_mem_caseImage {expansions : Array (Nat × List Nat)} {shifts : Array (Nat × Nat × Nat × Nat)}
    (hKeeps : keepsWords expansions shifts) {c d : Char} (hc : ¬ isAscii c)
    (hd : d ∈ caseImage expansions shifts c) : Wordly d := by
  obtain ⟨hExpansions, hShifts⟩ := Bool.and_eq_true_iff.mp hKeeps
  rw [caseImage] at hd
  split at hd
  · rename_i image hFind
    obtain ⟨n, hn, rfl⟩ := List.mem_map.mp hd
    have hImage := Array.all_eq_true_iff_forall_mem.mp hExpansions _ (Array.mem_of_find?_eq_some hFind)
    exact wordly_of_isWordNumber (List.all_eq_true.mp hImage n hn)
  · rw [List.mem_singleton.mp hd, shifted]
    cases hFind : shifts.find? fun (first, last, step, _) =>
        first ≤ c.toNat && c.toNat ≤ last && (c.toNat - first) % step == 0 with
    | none => exact fun hAscii => absurd hAscii hc
    | some row =>
      obtain ⟨first, last, step, image⟩ := row
      have hRow := Array.all_eq_true_iff_forall_mem.mp hShifts _ (Array.mem_of_find?_eq_some hFind)
      have hRange := Array.find?_some hFind
      simp only [Bool.and_eq_true, decide_eq_true_eq] at hRange
      obtain ⟨⟨hFirst, hLast⟩, _⟩ := hRange
      apply wordly_of_isWordNumber
      change isWordNumber (image + (c.toNat - first))
      rcases Bool.or_eq_true_iff.mp hRow with hBeyond | hSingle
      · exact isWordNumber_of_areBeyondAscii hBeyond (by omega) (by omega)
      · simp only [Bool.and_eq_true, decide_eq_true_eq] at hSingle
        rw [show image + (c.toNat - first) = image by omega]
        exact hSingle.2

theorem isAlphanum_toUpper {c : Char} (h : c.isAlphanum) : c.toUpper.isAlphanum := by
  have hUpper : ∀ c : Char, c.toNat < 128 → c.isAlphanum → c.toUpper.isAlphanum := forall_ascii (by decide)
  exact hUpper c (toNat_lt_of_isAlphanum h) h

theorem wordly_of_mem_uppercase {c d : Char} (hc : Wordly c) (hd : d ∈ uppercase c) : Wordly d := by
  rw [uppercase] at hd
  split at hd
  · rename_i hAscii
    rw [List.mem_singleton.mp hd]
    exact fun _ => isAlphanum_toUpper (hc hAscii)
  · exact wordly_of_mem_caseImage keepsWords_upper ‹_› hd

theorem wordly_of_mem_lowercase {c d : Char} (hc : Wordly c) (hd : d ∈ lowercase c) : Wordly d := by
  rw [lowercase] at hd
  split at hd
  · rename_i hAscii
    rw [List.mem_singleton.mp hd]
    exact fun _ => isAlphanum_toLower (hc hAscii)
  · exact wordly_of_mem_caseImage keepsWords_lower ‹_› hd

theorem isAlphanumeric_of_mem_words {name : String} {word : List Char} {c : Char} (hWord : word ∈ words name)
    (hc : c ∈ word) : isAlphanumeric c := by
  have hRuns (run text : List Char) (hRun : ∀ d ∈ run, isAlphanumeric d) {piece : List Char}
      (hPiece : piece ∈ runs run text) : ∀ d ∈ piece, isAlphanumeric d := by
    fun_induction runs run text with
    | case1 run =>
      rw [List.mem_singleton.mp hPiece]
      simpa using hRun
    | case2 run first rest hFirst ih =>
      refine ih (fun d hd => ?_) hPiece
      rcases List.mem_cons.mp hd with rfl | hd
      · exact hFirst
      · exact hRun d hd
    | case3 run first rest _ ih =>
      rcases List.mem_cons.mp hPiece with rfl | hPiece
      · simpa using hRun
      · exact ih (fun _ hd => absurd hd List.not_mem_nil) hPiece
  obtain ⟨run, hRun, hWord⟩ := List.mem_flatMap.mp hWord
  rcases mem_of_mem_cutRun hWord hc with hc | hc
  · cases hc
  · exact hRuns [] name.toList (fun _ hd => absurd hd List.not_mem_nil) hRun c hc

theorem wordly_of_isAlphanumeric {c : Char} (h : isAlphanumeric c) : Wordly c := by
  intro hAscii
  rwa [isAlphanumeric, if_pos hAscii] at h

theorem wordly_sigma : Wordly 'ς' := by
  intro hAscii
  revert hAscii
  decide

theorem wordly_of_mem_lowercaseWord {word : List Char} (h : ∀ c ∈ word, Wordly c) {d : Char}
    (hd : d ∈ lowercaseWord word) : Wordly d := by
  rcases mem_lowercaseWord hd with rfl | ⟨c, hc, hd⟩
  · exact wordly_sigma
  · exact wordly_of_mem_lowercase (h c hc) hd

theorem wordly_of_mem_pascalCase {name : String} {c : Char} (hc : c ∈ (pascalCase name).toList) : Wordly c := by
  rw [pascalCase, String.toList_ofList] at hc
  obtain ⟨word, hWord, hc⟩ := List.mem_flatMap.mp hc
  have hWordly : ∀ d ∈ word, Wordly d := fun d hd =>
    wordly_of_isAlphanumeric (isAlphanumeric_of_mem_words hWord hd)
  cases word with
  | nil => cases hc
  | cons first rest =>
    rcases List.mem_append.mp hc with hc | hc
    · exact wordly_of_mem_uppercase (hWordly first List.mem_cons_self) hc
    · exact wordly_of_mem_lowercaseWord (fun d hd => hWordly d (List.mem_cons_of_mem _ hd)) hc

theorem wordly_of_mem_snakeCase {name : String} (h : ∀ c ∈ name.toList, Wordly c) {c : Char}
    (hc : c ∈ (snakeCase name).toList) : c = '_' ∨ Wordly c := by
  rcases mem_snakeCase hc with rfl | rfl | ⟨d, hd, hc⟩
  · exact .inl rfl
  · exact .inr wordly_sigma
  · exact .inr (wordly_of_mem_lowercase (h d hd) hc)

theorem flatten_cutRun (mode : CaseMode) (word text : List Char) :
    (cutRun mode word text).flatten = word.reverse ++ text := by
  fun_induction cutRun mode word text with
  | case1 mode word h => simp [List.isEmpty_iff.mp h]
  | case2 mode word h => simp
  | case3 mode word c => simp
  | case4 mode word c next rest _ _ ih =>
    rw [List.flatten_cons, ih]
    simp
  | case5 mode word c next rest _ _ _ ih =>
    rw [List.flatten_cons, ih]
    simp
  | case6 mode word c next rest _ _ _ ih =>
    rw [ih]
    simp

theorem flatten_words {name : String} (h : ∀ c ∈ name.toList, isAlphanumeric c) :
    (words name).flatten = name.toList := by
  have hRuns (run text : List Char) (hText : ∀ c ∈ text, isAlphanumeric c) : runs run text = [run.reverse ++ text] := by
    induction text generalizing run with
    | nil => rw [runs, List.append_nil]
    | cons c rest ih =>
      rw [runs, if_pos (hText c List.mem_cons_self), ih _ fun d hd => hText d (List.mem_cons_of_mem _ hd),
        List.reverse_cons, List.append_assoc, List.singleton_append]
  rw [words, hRuns [] name.toList h, List.flatMap_singleton, flatten_cutRun]
  rfl

theorem lowercaseWord_of_ascii {word : List Char} (h : ∀ c ∈ word, isAscii c) :
    lowercaseWord word = word.map Char.toLower := by
  fun_induction lowercaseWord word with
  | case1 => rfl
  | case2 => exact absurd (h 'Σ' List.mem_cons_self) (by decide)
  | case3 c rest _ ih =>
    rw [lowercase, if_pos (h c List.mem_cons_self), ih fun d hd => h d (List.mem_cons_of_mem _ hd)]
    rfl

theorem isAscii_of_isAlphanum {c : Char} (h : c.isAlphanum) : isAscii c := by
  rw [isAscii, decide_eq_true_eq]
  exact toNat_lt_of_isAlphanum h

theorem isAlphanumeric_of_isAlphanum {c : Char} (h : c.isAlphanum) : isAlphanumeric c := by
  rwa [isAlphanumeric, if_pos (isAscii_of_isAlphanum h)]

theorem head?_intercalate {separator c : Char} {list : List (List Char)}
    (h : ([separator].intercalate list).head? = some c) : c = separator ∨ list.flatten.head? = some c := by
  match list with
  | [] => cases h
  | [only] => exact .inr (by simpa [List.intercalate_singleton] using h)
  | [] :: next :: others =>
    rw [List.intercalate_cons_cons] at h
    exact .inl (by simpa [eq_comm] using h)
  | (first :: rest) :: next :: others =>
    rw [List.intercalate_cons_cons] at h
    exact .inr (by simpa using h)

section Alphanum

variable {name : String} (h : ∀ c ∈ name.toList, c.isAlphanum)

include h

theorem snakeCase_of_alphanum :
    (snakeCase name).toList = ['_'].intercalate ((words name).map (List.map Char.toLower)) := by
  have hWords : ∀ word ∈ words name, lowercaseWord word = word.map Char.toLower := fun word hWord =>
    lowercaseWord_of_ascii fun c hc => isAscii_of_isAlphanum (h c (mem_of_mem_words hWord hc))
  rw [snakeCase, String.toList_ofList, List.map_congr_left hWords]

theorem isAlphanum_of_mem_snakeCase {c : Char} (hc : c ∈ (snakeCase name).toList) : c = '_' ∨ c.isAlphanum := by
  rw [snakeCase_of_alphanum h] at hc
  refine (mem_intercalate hc).imp_right fun ⟨lower, hLower, hc⟩ => ?_
  obtain ⟨word, hWord, rfl⟩ := List.mem_map.mp hLower
  obtain ⟨d, hd, rfl⟩ := List.mem_map.mp hc
  exact isAlphanum_toLower (h d (mem_of_mem_words hWord hd))

theorem head?_snakeCase {c : Char} (hc : (snakeCase name).toList.head? = some c) :
    c = '_' ∨ ∃ first, name.toList.head? = some first ∧ c = first.toLower := by
  rw [snakeCase_of_alphanum h] at hc
  refine (head?_intercalate hc).imp_right fun hHead => ?_
  rw [← List.map_flatten, flatten_words fun d hd => isAlphanumeric_of_isAlphanum (h d hd), List.head?_map] at hHead
  obtain ⟨first, hFirst, rfl⟩ := Option.map_eq_some_iff.mp hHead
  exact ⟨first, hFirst, rfl⟩

end Alphanum

end RowFactory.Text
