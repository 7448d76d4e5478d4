import RowFactory.Json.Reader
import RowFactory.Json.Writer

/-! # Texts in documents

Every character is read back from its written form, whatever follows, and so is a whole text up to its closing
quote. No written form gives half of a pair, so that a text that was written has no flaw.
-/

namespace RowFactory.Json

theorem unit?_of_lt (n : Nat) (h : n < 0x20) :
    unit? '0' '0' (if n < 0x10 then '0' else '1') (Nat.digitChar (n % 16)) = some n := by
  have hAll : ∀ n < 0x20, unit? '0' '0' (if n < 0x10 then '0' else '1') (Nat.digitChar (n % 16)) = some n := by
    decide
  exact hAll n h

theorem readText_plain {c : Char} (hQuote : c ≠ '"') (hEscape : c ≠ '\\') (hControl : ¬ c.toNat < 0x20)
    (done text : List Char) : readText done none (c :: text) = readText (c :: done) none text := by
  rw [readText.eq_def]
  split
  case h_7 hText =>
    obtain ⟨rfl, rfl⟩ := List.cons.inj hText
    exact if_neg hControl
  all_goals simp_all

theorem readText_control {c : Char} (h : c.toNat < 0x20) (done text : List Char) :
    readText done none
        (['\\', 'u', '0', '0', if c.toNat < 0x10 then '0' else '1', Nat.digitChar (c.toNat % 16)] ++ text) =
      readText (c :: done) none text := by
  have hHigh : isHighHalf c.toNat = false := by
    rw [isHighHalf, Bool.and_eq_false_iff, decide_eq_false_iff_not]
    exact .inl (by omega)
  have hLow : isLowHalf c.toNat = false := by
    rw [isLowHalf, Bool.and_eq_false_iff, decide_eq_false_iff_not]
    exact .inl (by omega)
  simp only [List.cons_append, List.nil_append]
  rw [readText, unit?_of_lt c.toNat h]
  simp only [hHigh, hLow, Bool.false_eq_true, if_false, Char.ofNat_toNat]

theorem readText_writeChar (c : Char) (done text : List Char) :
    readText done none (writeChar c ++ text) = readText (c :: done) none text := by
  unfold writeChar
  split
  case h_8 hQuote hEscape _ _ _ _ _ =>
    split
    · rename_i hControl
      exact readText_control hControl done text
    · rename_i hControl
      exact readText_plain hQuote hEscape hControl done text
  -- The characters with a short form.
  all_goals simp [readText, simpleEscape?]

theorem readText_flatMap_writeChar (chars done text : List Char) :
    readText done none (chars.flatMap writeChar ++ '"' :: text) =
      (.string (String.ofList (done.reverse ++ chars)), text) := by
  induction chars generalizing done with
  | nil => simp [readText]
  | cons c rest ih =>
    rw [List.flatMap_cons, List.append_assoc, readText_writeChar, ih, List.reverse_cons, List.append_assoc]
    rfl

theorem readText_writeText (text : String) (rest : List Char) :
    readText [] none (text.toList.flatMap writeChar ++ '"' :: rest) = (.string text, rest) := by
  rw [readText_flatMap_writeChar, List.reverse_nil, List.nil_append, String.ofList_toList]

end RowFactory.Json
