import RowFactory.Proofs.Code.Paths
import RowFactory.Proofs.Disk.Extensions
import RowFactory.Proofs.Generation.ModulePaths
import RowFactory.Source.ModulePath

/-! # Paths of records in files

The path of a record is read from the path of its module and its name. The module of a file is called as the file and
the directories above it are, with no raw marks, so that a keyword among these names leaves nothing to be read.
-/

namespace RowFactory.Generation

open Code (Ident Path Spells isPathWord keywords)
open Disk.Path (GoesBy IsName)

section Words

variable {word name : String}

/-- A word that names something: no keyword, unless it has the raw mark. -/
structure IsIdentifier (word name : String) : Prop where
  spells : Spells word name
  noBlank : word ≠ "_"
  noKeyword : word ∉ keywords

theorem IsIdentifier.isPathWord (h : IsIdentifier word name) : isPathWord word := by
  simp [Code.isPathWord, h.noBlank, h.noKeyword]

theorem spells_of_isSome (h : (Ident.ofName? name).isSome) : Spells name name := by
  obtain ⟨i, hi⟩ := Option.isSome_iff_exists.mp h
  exact Code.spells_name hi

theorem isIdentifier_text {i : Ident} (h : Ident.ofName? name = some i) : IsIdentifier i.text name := by
  have hText := Code.text_notMem_keywords h
  rw [List.mem_cons, not_or] at hText
  exact ⟨Code.spells_text h, hText.1, hText.2⟩

theorem isPathWord_iff (h : (Ident.ofName? name).isSome) : isPathWord name ↔ (name ∈ keywords → name = "try") := by
  obtain ⟨i, hi⟩ := Option.isSome_iff_exists.mp h
  have hOther := Ident.not_unnameable hi
  simp only [Code.unnameable, List.mem_cons, List.not_mem_nil, or_false, not_or] at hOther
  simp [Code.isPathWord, hOther]
  tauto

end Words

theorem intercalate_concat (first : String) (rest : List String) (last : String) :
    "::".intercalate (first :: (rest ++ [last])) = "::".intercalate (first :: rest) ++ "::" ++ last := by
  induction rest generalizing first with
  | nil => rfl
  | cons next others ih =>
    rw [← String.toList_inj, List.cons_append, Code.toList_intercalate_cons, ih, String.toList_append,
      String.toList_append, String.toList_append, String.toList_append, Code.toList_intercalate_cons]
    simp

section Records

variable {segments names : List String} {typeName recordName : String}

theorem modulePath_nonempty : ("::".intercalate (Source.crateName :: segments)).isEmpty = false := by
  have hHead : ("::".intercalate (Source.crateName :: segments)).toList.head? = some 'c' := by
    cases segments with
    | nil => rfl
    | cons next others =>
      rw [Code.toList_intercalate_cons]
      rfl
  rw [Bool.eq_false_iff]
  intro hEmpty
  rw [String.isEmpty_iff.mp hEmpty] at hHead
  cases hHead

theorem spells_path (hSegments : List.Forall₂ Spells segments names) (hType : IsIdentifier typeName recordName) :
    List.Forall₂ Spells (Source.crateName :: (segments ++ [typeName])) (Source.crateName :: (names ++ [recordName])) :=
  .cons ⟨by decide, .inl rfl⟩ (List.rel_append hSegments (.cons hType.spells .nil))

theorem ofType_words (hSegments : List.Forall₂ Spells segments names) (hType : IsIdentifier typeName recordName) :
    Path.ofType ("::".intercalate (Source.crateName :: segments)) typeName =
      if segments.all isPathWord then
        .ok ⟨false, (Source.crateName :: (segments ++ [typeName])).map fun word => ⟨Code.Grammar.identOf word, []⟩⟩
      else
        .error (.invalidPath
          ("'" ++ "::".intercalate (Source.crateName :: (segments ++ [typeName])) ++ "': no path")) := by
  have hWords := spells_path hSegments hType
  have hAll : (Source.crateName :: (segments ++ [typeName])).all isPathWord = segments.all isPathWord := by
    rw [List.all_cons, List.all_append, List.all_cons, List.all_nil, hType.isPathWord, Bool.and_true, Bool.and_true]
    rfl
  have hText : Path.ofType ("::".intercalate (Source.crateName :: segments)) typeName =
      Path.parse ("::".intercalate (Source.crateName :: (segments ++ [typeName]))) := by
    rw [Path.ofType, modulePath_nonempty, intercalate_concat]
    rfl
  rw [hText, Path.parse, Code.parse?_words hWords (List.cons_ne_nil _ _), hAll]
  cases segments.all isPathWord <;> rfl

/-- With the raw mark on every keyword, as it is on nested modules, all names of modules may stand in a path. -/
theorem exists_ofType_marked
    (hSegments : List.Forall₂ (fun segment name => ∃ i, Ident.ofName? name = some i ∧ segment = i.text) segments names)
    (hType : IsIdentifier typeName recordName) :
    ∃ p, Path.ofType ("::".intercalate (Source.crateName :: segments)) typeName = .ok p ∧
      p.segments.map (·.ident.name) = Source.crateName :: (names ++ [recordName]) := by
  have hSpelled : List.Forall₂ Spells segments names := by
    refine hSegments.imp ?_
    rintro segment name ⟨i, hi, rfl⟩
    exact (isIdentifier_text hi).spells
  have hAll : segments.all isPathWord := by
    refine List.all_eq_true.mpr fun segment hSegment => ?_
    obtain ⟨name, _, i, hi, rfl⟩ := Results.exists_of_mem_left hSegments hSegment
    exact (isIdentifier_text hi).isPathWord
  refine ⟨_, (ofType_words hSpelled hType).trans (if_pos hAll), ?_⟩
  rw [List.map_map]
  exact Code.map_identOf_name (spells_path hSpelled hType)

end Records

/-- Names of modules down to a file, which has the name of its stem unless it stands for its directory or the crate. -/
def fileModules (directories : List String) (stem : String) : List String :=
  if stem = "mod" ∨ directories = [] ∧ (stem = "lib" ∨ stem = "main") then directories else directories ++ [stem]

section Files

variable {path stem : String} {directories : List String}

theorem moduleOfFile_of_goesBy (hPath : GoesBy path (directories ++ [stem ++ ".rs"])) (hStem : IsName stem) :
    Source.moduleOfFile path = "::".intercalate (Source.crateName :: fileModules directories stem) := by
  have hComponents : Disk.Path.components path = directories.map .name ++ [.name (stem ++ "." ++ "rs")] := by
    rw [hPath, List.map_append, String.append_assoc]
    rfl
  have hParts :
      (Disk.Path.components (Disk.Path.dropExtension path)).map Disk.Component.text = directories ++ [stem] := by
    rw [Disk.Path.components_dropExtension hComponents hStem (by decide), List.map_append, List.map_map]
    exact congrArg (· ++ [stem]) (List.map_id' directories)
  have hSegments : Source.moduleSegments (directories ++ [stem]) = fileModules directories stem := by
    rw [Source.moduleSegments, List.getLast?_concat, List.dropLast_concat, fileModules]
    simp [Source.isModuleRoot]
  rw [Source.moduleOfFile, hParts, hSegments]

theorem fileModules_subset : fileModules directories stem ⊆ directories ++ [stem] := by
  rw [fileModules]
  split
  · exact List.subset_append_left directories [stem]
  · exact List.Subset.refl _

/-- A record in a file has a path unless one of the modules down to the file is called by a keyword other than `try`;
the path goes down by the names of these modules to the name of the record. -/
theorem ofType_moduleOfFile {typeName recordName : String} (hPath : GoesBy path (directories ++ [stem ++ ".rs"]))
    (hParts : ∀ part ∈ directories ++ [stem], (Ident.ofName? part).isSome) (hType : IsIdentifier typeName recordName) :
    ((∃ p, Path.ofType (Source.moduleOfFile path) typeName = .ok p) ↔
        ∀ part ∈ fileModules directories stem, part ∈ keywords → part = "try") ∧
      (∀ p, Path.ofType (Source.moduleOfFile path) typeName = .ok p →
        p.leading = false ∧
          p.segments.map (·.ident.name) = Source.crateName :: (fileModules directories stem ++ [recordName]) ∧
          ∀ segment ∈ p.segments, segment.arguments = []) ∧
      ∀ e, Path.ofType (Source.moduleOfFile path) typeName = .error e → ∃ message, e = .invalidPath message := by
  have hStem : IsName stem := isName_of_isSome (hParts stem (List.mem_append_right _ List.mem_cons_self))
  have hModules : ∀ part ∈ fileModules directories stem, (Ident.ofName? part).isSome := fun part hPart =>
    hParts part (fileModules_subset hPart)
  have hSpelled : List.Forall₂ Spells (fileModules directories stem) (fileModules directories stem) :=
    List.forall₂_same.mpr fun part hPart => spells_of_isSome (hModules part hPart)
  have hAll : (fileModules directories stem).all isPathWord ↔
      ∀ part ∈ fileModules directories stem, part ∈ keywords → part = "try" := by
    rw [List.all_eq_true]
    exact forall₂_congr fun part hPart => isPathWord_iff (hModules part hPart)
  rw [moduleOfFile_of_goesBy hPath hStem, ofType_words hSpelled hType, ← hAll]
  cases (fileModules directories stem).all isPathWord with
  | false =>
    refine ⟨?_, ?_, ?_⟩
    · simp
    · rintro p ⟨⟩
    · rintro e ⟨⟩
      exact ⟨_, rfl⟩
  | true =>
    refine ⟨?_, ?_, ?_⟩
    · simp
    · rintro p ⟨⟩
      refine ⟨rfl, ?_, ?_⟩
      · rw [List.map_map]
        exact Code.map_identOf_name (spells_path hSpelled hType)
      · intro segment hSegment
        obtain ⟨word, _, rfl⟩ := List.mem_map.mp hSegment
        rfl
    · rintro e ⟨⟩

/-- A file that is called by a keyword, as the module `r#match` demands, leaves its records without a path. -/
theorem not_exists_ofType_keyword :
    GoesBy "match.rs" ([] ++ ["match" ++ ".rs"]) ∧ (∀ part ∈ [] ++ ["match"], (Ident.ofName? part).isSome) ∧
      IsIdentifier "UsersRecord" "UsersRecord" ∧
      ¬ ∃ p, Path.ofType (Source.moduleOfFile "match.rs") "UsersRecord" = .ok p := by
  have hPath : GoesBy "match.rs" ([] ++ ["match" ++ ".rs"]) := by decide
  have hParts : ∀ part ∈ [] ++ ["match"], (Ident.ofName? part).isSome := by decide
  have hType : IsIdentifier "UsersRecord" "UsersRecord" := ⟨⟨by decide, .inl rfl⟩, by decide, by decide⟩
  refine ⟨hPath, hParts, hType, ?_⟩
  rw [(ofType_moduleOfFile hPath hParts hType).1]
  decide

end Files

end RowFactory.Generation
