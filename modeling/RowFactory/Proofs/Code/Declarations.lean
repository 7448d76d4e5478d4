import Mathlib.Data.List.Basic
import RowFactory.Code.Render
import RowFactory.Proofs.Code.Words
import RowFactory.Proofs.Results

/-! # Declarations of modules in a text

The text of a module index can be read again: it declares the modules that it was made from, one on each line.
-/

namespace RowFactory.Code

open Layout

/-- The module that a line declares, without its raw mark. -/
def moduleOfLine? (line : List Char) : Option String := do
  let rest ← line.dropPrefix? "pub mod ".toList
  let word ← rest.dropSuffix? ";".toList
  let name := String.ofList ((word.dropPrefix? "r#".toList).getD word)
  if (Ident.ofName? name).isSome then some name else none

def declaredModules (text : String) : List String := (linesOf [] text.toList).filterMap moduleOfLine?

def lineOf (i : Ident) : List Char := ("pub mod " ++ i.text ++ ";").toList

theorem linesOf_append {line text : List Char} (h : '\n' ∉ text) (rest : List Char) :
    linesOf line (text ++ '\n' :: rest) = (line.reverse ++ text) :: linesOf [] rest := by
  induction text generalizing line with
  | nil => rw [List.nil_append, linesOf, List.append_nil]
  | cons c text ih =>
    have hc : c ≠ '\n' := fun hc => h (hc ▸ List.mem_cons_self)
    have hText : '\n' ∉ text := fun hText => h (List.mem_cons_of_mem c hText)
    rw [List.cons_append, linesOf, ih hText, List.reverse_cons, List.append_assoc, List.singleton_append]
    exact hc

theorem linesOf_flatMap {lines : List (List Char)} (h : ∀ line ∈ lines, '\n' ∉ line) :
    linesOf [] (lines.flatMap (· ++ ['\n'])) = lines ++ [[]] := by
  induction lines with
  | nil => rfl
  | cons line rest ih =>
    rw [List.flatMap_cons, List.append_assoc, List.singleton_append,
      linesOf_append (h line List.mem_cons_self), ih fun other hOther => h other (List.mem_cons_of_mem _ hOther)]
    rfl

theorem dropPrefix?_append (start rest : List Char) : (start ++ rest).dropPrefix? start = some rest :=
  List.dropPrefix?_eq_some_iff.mpr ⟨start, rfl, beq_self_eq_true start⟩

theorem dropSuffix?_append (rest ending : List Char) : (rest ++ ending).dropSuffix? ending = some rest :=
  List.dropSuffix?_eq_some_iff.mpr ⟨ending, rfl, beq_self_eq_true ending⟩

theorem not_mem_lineOf {name : String} {i : Ident} (h : Ident.ofName? name = some i) : '\n' ∉ lineOf i := by
  have hName : i.name = name := by rw [(Ident.ofName?_eq_some h).2]
  have hText : '\n' ∉ i.text.toList := by
    intro hMem
    rw [Ident.text, hName] at hMem
    have hRaw : '\n' ∈ "r#".toList ∨ '\n' ∈ name.toList := by
      split at hMem
      · exact List.mem_append.mp (String.toList_append ▸ hMem)
      · exact .inr hMem
    rcases hRaw with hMem | hMem
    · revert hMem
      decide
    · exact absurd (isAsciiWordRest_of_ofName? h hMem) (by decide)
  rw [lineOf, String.toList_append, String.toList_append, List.mem_append, List.mem_append]
  rintro ((hMem | hMem) | hMem)
  · revert hMem
    decide
  · exact hText hMem
  · revert hMem
    decide

theorem moduleOfLine?_lineOf {name : String} {i : Ident} (h : Ident.ofName? name = some i) :
    moduleOfLine? (lineOf i) = some name := by
  have hIdent := (Ident.ofName?_eq_some h).2
  -- A name has no raw mark of its own, so that dropping one gives the name back.
  have hBare : name.toList.dropPrefix? "r#".toList = none := by
    rw [Option.eq_none_iff_forall_ne_some]
    intro rest hRest
    obtain ⟨mark, hMark, hEq⟩ := List.dropPrefix?_eq_some_iff.mp hRest
    rw [beq_iff_eq] at hEq
    have hMem : '#' ∈ name.toList := by
      rw [hMark, hEq]
      exact List.mem_append_left _ (by decide)
    exact absurd (isAsciiWordRest_of_ofName? h hMem) (by decide)
  have hDrop : (i.text.toList.dropPrefix? "r#".toList).getD i.text.toList = name.toList := by
    rw [hIdent, Ident.text]
    split
    · rw [String.toList_append, dropPrefix?_append, Option.getD_some]
    · rw [hBare, Option.getD_none]
  rw [moduleOfLine?, lineOf, String.toList_append, String.toList_append, List.append_assoc, dropPrefix?_append,
    Option.bind_eq_bind, Option.bind_some, dropSuffix?_append, Option.bind_some]
  simp only [hDrop, String.ofList_toList, h, Option.isSome_some, if_true]

theorem piecesOfAll_declarations (idents : List Ident) :
    Item.piecesOfAll (idents.map .declaration) = idents.flatMap fun i =>
      [.group indentation true [.word "pub ", .word "mod ", .word i.text, .word ";"], Piece.newLine] := by
  induction idents with
  | nil => rfl
  | cons i rest ih =>
    rw [List.map_cons, Item.piecesOfAll, ih]
    rfl

theorem text_writeDeclarations (idents : List Ident) (beyond : Nat) (page : Page) (h : page.pending = 0) :
    (writePieces .even 0 beyond (Item.piecesOfAll (idents.map .declaration)) page).text.reverse =
      page.text.reverse ++ idents.flatMap (lineOf · ++ ['\n']) := by
  rw [piecesOfAll_declarations]
  induction idents generalizing page with
  | nil => simp [writePieces]
  | cons i rest ih =>
    rw [List.flatMap_cons, List.cons_append, List.singleton_append, writePieces, writePieces, ih]
    · simp [writePieces, writePiece, Page.put, Page.settle, Page.take, Piece.newLine, h, lineOf]
    · simp [writePiece, Page.take, Piece.newLine]

/-- A group that ends in a place keeps it, unless the place is its only piece. -/
theorem even_concat (offset : Int) {inner : List Piece} (h : inner ≠ []) {b : Break} (hb : b.inside = false) :
    even offset (inner ++ [.place b]) = [.group offset true (inner ++ [.place b])] := by
  obtain ⟨last, rest, hLast⟩ := List.exists_cons_of_ne_nil (List.reverse_ne_nil_iff.mpr h)
  rw [even, group, closeGroup, List.reverse_append, hLast]
  simp [hb]

theorem unbounded_le_widthAll (first : List Piece) : unbounded ≤ widthAll (first ++ [Piece.newLine]) := by
  induction first with
  | nil => decide
  | cons p rest ih =>
    rw [List.cons_append, widthAll]
    exact Nat.le_trans ih (Nat.le_add_left _ _)

/-- An index does not fit on one line, so that every declaration stands on its own. -/
theorem toList_layOut_declarations (idents : List Ident) :
    (layOut (Item.piecesOfAll (idents.map .declaration))).toList = idents.flatMap (lineOf · ++ ['\n']) := by
  have hText := text_writeDeclarations idents 0 {} rfl
  rw [layOut, String.toList_ofList]
  rcases idents.eq_nil_or_concat' with rfl | ⟨rest, i, rfl⟩
  · rfl
  · obtain ⟨first, hFirst, hPieces⟩ : ∃ first, first ≠ [] ∧
        Item.piecesOfAll ((rest ++ [i]).map .declaration) = first ++ [Piece.newLine] := by
      rw [piecesOfAll_declarations, List.flatMap_append, List.flatMap_singleton]
      exact ⟨_ ++ [_], by simp, (List.append_assoc _ [_] [_]).symm⟩
    have hBroken : lineWidth < (widthAll (first ++ [Piece.newLine]) : Int) + (0 : Nat) := by
      have hWide := unbounded_le_widthAll first
      rw [unbounded] at hWide
      rw [lineWidth]
      omega
    rw [hPieces] at hText ⊢
    rw [Piece.newLine] at hBroken hText ⊢
    rw [even_concat 0 hFirst rfl, writePieces, writePieces, writePiece, reach]
    simp only [if_pos hBroken, if_true, Int.add_zero]
    exact hText

theorem filterMap_lineOf {names : List String} {idents : List Ident}
    (h : List.Forall₂ (fun name i => Ident.ofName? name = some i) names idents) :
    (idents.map lineOf).filterMap moduleOfLine? = names := by
  induction h with
  | nil => rfl
  | cons hName _ ih => rw [List.map_cons, List.filterMap_cons_some (moduleOfLine?_lineOf hName), ih]

theorem allRead_declarations (idents : List Ident) : Item.allRead (idents.map .declaration) := by
  induction idents with
  | nil => rfl
  | cons i rest ih => rw [List.map_cons, Item.allRead, Item.reads, ih, Bool.and_self]

theorem allNamed_declarations {names : List String} {idents : List Ident}
    (h : List.Forall₂ (fun name i => Ident.ofName? name = some i) names idents) :
    Item.allNamed (idents.map .declaration) := by
  induction h with
  | nil => rfl
  | cons hName _ ih => rw [List.map_cons, Item.allNamed, Item.isNamed, Ident.isName_of_ofName? hName, ih, Bool.and_self]

/-- The text of an index declares what the index was made from, and nothing else. -/
theorem declaredModules_renderFile (path : String) {names : List String} {idents : List Ident}
    (hIdents : List.Forall₂ (fun name i => Ident.ofName? name = some i) names idents) :
    ∃ content, renderFile path (idents.map .declaration) = .ok content ∧ declaredModules content = names := by
  have hRead : Item.allNamed (idents.map .declaration) && Item.allRead (idents.map .declaration) := by
    rw [allNamed_declarations hIdents, allRead_declarations, Bool.and_self]
  refine ⟨_, by rw [renderFile, if_pos hRead], ?_⟩
  have hLines : ∀ line ∈ idents.map lineOf, '\n' ∉ line := by
    intro line hLine
    obtain ⟨i, hi, rfl⟩ := List.mem_map.mp hLine
    obtain ⟨name, _, hName⟩ := Results.exists_of_mem hIdents hi
    exact not_mem_lineOf hName
  have hHeader : '\n' ∉ generatedHeader.toList := by decide
  have hFlat : idents.flatMap (lineOf · ++ ['\n']) = (idents.map lineOf).flatMap (· ++ ['\n']) := by
    rw [List.flatMap_map]
  have hText : (generatedHeader ++ "\n\n" ++ layOut (Item.piecesOfAll (idents.map .declaration))).toList =
      generatedHeader.toList ++ '\n' :: '\n' :: (idents.map lineOf).flatMap (· ++ ['\n']) := by
    rw [String.toList_append, String.toList_append, List.append_assoc, toList_layOut_declarations, hFlat]
    rfl
  rw [declaredModules, hText, linesOf_append hHeader, linesOf, linesOf_flatMap hLines,
    List.filterMap_cons_none (by decide), List.filterMap_cons_none (by decide), List.filterMap_append,
    filterMap_lineOf hIdents, List.filterMap_cons_none (by decide), List.filterMap_nil, List.append_nil]

end RowFactory.Code
