import Mathlib.Data.List.Induction
import RowFactory.Proofs.Generation.FileModules
import RowFactory.Source.Index

/-! # Directories of modules

Going from a file to its module and from the module to its directory ends at the directory where the file is, or at
the one that is called as the file. The directory of a nested module is one further down, unless a colon at the end of
the module around it has run into the separator.
-/

namespace RowFactory.Generation

open Code (IsWord Spells)
open Disk.Path (EndsInName GoesBy IsName components join ofParts pieces same)

theorem isName_of_isWord {name : String} (h : IsWord name.toList) : IsName name where
  noSlash hSlash := absurd (Code.isWordRest_of_isWord h hSlash) (by decide)
  noPoints := by
    intro hPoints
    simp only [List.mem_cons, List.not_mem_nil, or_false] at hPoints
    rcases hPoints with hPoints | hPoints | hPoints <;> rw [hPoints] at h <;> revert h <;> decide

theorem noColon_of_isWord {name : String} (h : IsWord name.toList) : ':' ∉ name.toList :=
  fun hColon => absurd (Code.isWordRest_of_isWord h hColon) (by decide)

section Spelled

variable {segment name : String}

theorem namesPart_of_spells (h : Spells segment name) (hCrate : name ≠ Source.crateName) : NamesPart segment name := by
  have hMark : '#' ∉ name.toList := fun hMark => absurd (Code.isWordRest_of_isWord h.1 hMark) (by decide)
  exact namesPart_of_noMark (noColon_of_isWord h.1) hMark hCrate (h.2.imp_right And.left)

theorem goesBy_directoryOf {segments names : List String}
    (h : List.Forall₂ (fun segment name => Spells segment name ∧ name ≠ Source.crateName) segments names) :
    GoesBy (directoryOf ("::".intercalate (Source.crateName :: segments))) names := by
  have hParts : List.Forall₂ NamesPart segments names := h.imp fun _ _ hWord => namesPart_of_spells hWord.1 hWord.2
  rw [directoryOf, directoryParts_intercalate hParts]
  refine Disk.Path.goesBy_ofParts fun name hName => ?_
  obtain ⟨segment, _, hWord⟩ := Results.exists_of_mem h hName
  exact isName_of_isWord hWord.1.1

end Spelled

theorem pieces_ofParts {parts : List String} (hParts : parts ≠ []) (h : ∀ part ∈ parts, IsName part) :
    pieces [] (ofParts parts).toList = parts.map String.toList := by
  induction parts using List.reverseRecOn with
  | nil => exact absurd rfl hParts
  | append_singleton front last ih =>
    have hFront : ∀ part ∈ front, IsName part := fun part hPart => h part (List.mem_append_left _ hPart)
    have hLast : IsName last := h last (List.mem_append_right _ List.mem_cons_self)
    rw [Disk.Path.ofParts_append_singleton, List.map_append, List.map_singleton]
    rcases eq_or_ne front [] with rfl | hNonempty
    · exact (congrArg (fun path : String => pieces [] path.toList) (Disk.Path.join_empty last)).trans hLast.pieces_eq
    · -- A front that spells nothing would have one piece, and an empty one.
      have hEnds : EndsInName (ofParts front) := by
        refine (Disk.Path.endsInName_ofParts hFront).resolve_left fun hEmpty => ?_
        have hPieces := ih hNonempty hFront
        rw [hEmpty] at hPieces
        obtain ⟨part, rfl, hPart⟩ := List.map_eq_singleton_iff.mp hPieces.symm
        exact (hFront part List.mem_cons_self).noPoints (hPart ▸ List.mem_cons_self)
      rw [hEnds.toList_join hLast, Disk.Path.pieces_append, ih hNonempty hFront, hLast.pieces_eq]

theorem ofParts_eq_intercalate {parts : List String} (h : ∀ part ∈ parts, IsName part) :
    ofParts parts = "/".intercalate parts := by
  rcases eq_or_ne parts [] with rfl | hParts
  · rfl
  · rw [← String.toList_inj, String.toList_intercalate, ← pieces_ofParts hParts h]
    exact (Disk.Path.intercalate_pieces [] _).symm

/-- The last segment of a module path ends in a colon, which goes over to what a separator is put before. -/
def LeavesColon (moduleName : String) : Prop :=
  ∃ last, (segmentsOf [] moduleName.toList).getLast? = some last ∧ last.toList.getLast? = some ':'

section Nested

variable {moduleName segment name : String}

theorem toList_nested (moduleName segment : String) :
    (moduleName ++ "::" ++ segment).toList = moduleName.toList ++ ':' :: ':' :: segment.toList := by
  rw [String.toList_append, String.toList_append, List.append_assoc]
  rfl

theorem segmentsOf_nested (hModule : ¬ LeavesColon moduleName) (hSegment : ':' ∉ segment.toList) :
    segmentsOf [] (moduleName ++ "::" ++ segment).toList = segmentsOf [] moduleName.toList ++ [segment] := by
  rw [toList_nested, segmentsOf_append, segmentsOf_of_noColon hSegment]
  · simp
  · exact fun _ last hLast hColon => hModule ⟨last, hLast, hColon⟩

theorem getLast?_segmentsOf_of_colon {started text rest : List Char} {last : String} (hText : text ≠ [])
    (hLast : (segmentsOf started text).getLast? = some last) (hColon : last.toList.getLast? = some ':')
    (hRest : ':' ∉ rest) :
    (segmentsOf started (text ++ ':' :: ':' :: rest)).getLast? = some (String.ofList (':' :: rest)) := by
  fun_induction segmentsOf started text with
  | case1 started => exact absurd rfl hText
  | case2 started more ih =>
    obtain ⟨next, others, hNext⟩ := List.exists_cons_of_ne_nil (segmentsOf_ne_nil [] more)
    rw [hNext, List.getLast?_cons_cons, ← hNext] at hLast
    have hMore : more ≠ [] := by
      rintro rfl
      cases hLast
      cases hColon
    rw [List.cons_append, List.cons_append, segmentsOf, List.getLast?_cons, ih hMore hLast, Option.getD_some]
  | case3 started c more hSeparator ih =>
    cases more with
    | nil =>
      -- The colon at the end makes a separator with the first one after it; the second one is left.
      obtain rfl : String.ofList (c :: started).reverse = last := Option.some.inj hLast
      rw [String.toList_ofList, List.reverse_cons, List.getLast?_concat] at hColon
      cases hColon
      rw [List.singleton_append, segmentsOf, segmentsOf, segmentsOf_of_noColon hRest, List.getLast?_cons]
      · rfl
      · rintro others - rfl
        exact hRest List.mem_cons_self
    | cons d others =>
      rw [List.cons_append, segmentsOf, ih (List.cons_ne_nil d others) hLast]
      rintro text rfl hText
      obtain ⟨rfl, _⟩ := List.cons.inj hText
      exact hSeparator others rfl rfl

theorem directoryOf_of_segments {segments : List String} (h : segmentsOf [] moduleName.toList = segments ++ [segment])
    (hCrate : segment ≠ Source.crateName) :
    directoryOf moduleName =
      join (ofParts ((segments.filter (· ≠ Source.crateName)).map fun s => String.ofList (dropRawMarks s.toList)))
        (String.ofList (dropRawMarks segment.toList)) := by
  have hKept : [segment].filter (· ≠ Source.crateName) = [segment] :=
    List.filter_cons_of_pos (decide_eq_true hCrate)
  rw [directoryOf, directoryParts, h, List.filter_append, hKept, List.map_append, List.map_singleton,
    Disk.Path.ofParts_append_singleton]

theorem directoryOf_nested (hSegment : Spells segment name) (hCrate : name ≠ Source.crateName)
    (hModule : ¬ LeavesColon moduleName) :
    directoryOf (moduleName ++ "::" ++ segment) = join (directoryOf moduleName) name := by
  have hPart := namesPart_of_spells hSegment hCrate
  rw [directoryOf_of_segments (segmentsOf_nested hModule hPart.noColon) hPart.notCrate, hPart.unmarked]
  rfl

theorem LeavesColon.getLast?_nested (hModule : LeavesColon moduleName) (hSegment : ':' ∉ segment.toList) :
    (segmentsOf [] (moduleName ++ "::" ++ segment).toList).getLast? = some (":" ++ segment) := by
  obtain ⟨last, hLast, hColon⟩ := hModule
  have hText : moduleName.toList ≠ [] := by
    intro hEmpty
    rw [hEmpty] at hLast
    cases hLast
    cases hColon
  rw [toList_nested, getLast?_segmentsOf_of_colon hText hLast hColon hSegment, Option.some.injEq, ← String.toList_inj,
    String.toList_ofList, String.toList_append]
  rfl

/-- After a colon at the end, the nested module gets the colon, and its raw mark is no mark any more. -/
theorem LeavesColon.exists_directoryOf (hModule : LeavesColon moduleName) (hSegment : ':' ∉ segment.toList) :
    ∃ directory, directoryOf (moduleName ++ "::" ++ segment) = join directory (":" ++ segment) := by
  obtain ⟨segments, hSegments⟩ := List.getLast?_eq_some_iff.mp (hModule.getLast?_nested hSegment)
  have hText : (":" ++ segment).toList = ':' :: segment.toList := String.toList_append
  have hOther : ":" ++ segment ≠ Source.crateName := by
    intro hSame
    rw [hSame] at hText
    cases hText
  refine ⟨_, (directoryOf_of_segments hSegments hOther).trans (congrArg (join _) ?_)⟩
  rw [hText, ← String.toList_inj, String.toList_ofList, hText]
  rfl

theorem not_leavesColon_nested (hSegment : segment.toList ≠ []) (hColon : ':' ∉ segment.toList) :
    ¬ LeavesColon (moduleName ++ "::" ++ segment) := by
  rintro ⟨last, hLast, hEnd⟩
  have hSame : last.toList.getLast? = segment.toList.getLast? := by
    by_cases hModule : LeavesColon moduleName
    · rw [hModule.getLast?_nested hColon] at hLast
      cases hLast
      rw [String.toList_append, List.getLast?_append_of_ne_nil _ hSegment]
    · rw [segmentsOf_nested hModule hColon, List.getLast?_concat] at hLast
      cases hLast
      rfl
  rw [hSame] at hEnd
  exact hColon (List.mem_of_getLast? hEnd)

theorem isName_colon_append (hSegment : Spells segment name) : IsName (":" ++ segment) where
  noSlash := by
    have hName : '/' ∉ name.toList := (isName_of_isWord hSegment.1).noSlash
    rw [String.toList_append, List.mem_append, not_or]
    refine ⟨by decide, ?_⟩
    rcases hSegment.2 with rfl | ⟨rfl, _⟩
    · exact hName
    · rw [String.toList_append, List.mem_append, not_or]
      exact ⟨by decide, hName⟩
  noPoints := by
    rw [String.toList_append]
    intro hPoints
    simp only [List.mem_cons, List.not_mem_nil, or_false] at hPoints
    rcases hPoints with hPoints | hPoints | hPoints <;> cases hPoints

/-- The directory of a nested module has one name more than that of the module around it, and just this name, if and
only if that module leaves no colon. -/
theorem components_directoryOf_nested (hSegment : Spells segment name) (hCrate : name ≠ Source.crateName) :
    components (directoryOf (moduleName ++ "::" ++ segment)) = components (directoryOf moduleName) ++ [.name name] ↔
      ¬ LeavesColon moduleName := by
  constructor
  · intro hComponents hModule
    obtain ⟨directory, hDirectory⟩ := hModule.exists_directoryOf (namesPart_of_spells hSegment hCrate).noColon
    rw [hDirectory, Disk.Path.components_join_name directory (isName_colon_append hSegment)] at hComponents
    have hName : ":" ++ segment = name :=
      Disk.Component.name.inj (List.cons.inj (List.append_inj' hComponents rfl).2).1
    refine noColon_of_isWord hSegment.1 ?_
    rw [← hName, String.toList_append]
    exact List.mem_cons_self
  · intro hModule
    rw [directoryOf_nested hSegment hCrate hModule,
      Disk.Path.components_join_name _ (isName_of_isWord hSegment.1)]

end Nested

/-- Directories are laid out as the modules are. A file that is called by words has its factories in the directory of
its name, or in the one where it is if it stands for that; every nested module goes one directory further down, by its
name, if and only if the module around it leaves no colon, as no nested module does; and modules of words share a
directory only if their segments have the same names. -/
theorem directoryOf_mirrors :
    (∀ path directories stem, GoesBy path (directories ++ [stem ++ ".rs"]) →
        (∀ part ∈ directories ++ [stem], IsWord part.toList ∧ part ≠ Source.crateName) →
        directoryOf (Source.moduleOfFile path) = "/".intercalate (fileModules directories stem)) ∧
      (∀ moduleName segment name, Spells segment name → name ≠ Source.crateName →
        (¬ LeavesColon moduleName → directoryOf (moduleName ++ "::" ++ segment) = join (directoryOf moduleName) name) ∧
        (components (directoryOf (moduleName ++ "::" ++ segment)) =
            components (directoryOf moduleName) ++ [.name name] ↔ ¬ LeavesColon moduleName) ∧
        ¬ LeavesColon (moduleName ++ "::" ++ segment)) ∧
      ∀ segments names others otherNames,
        List.Forall₂ (fun segment name => Spells segment name ∧ name ≠ Source.crateName) segments names →
        List.Forall₂ (fun segment name => Spells segment name ∧ name ≠ Source.crateName) others otherNames →
        (same (directoryOf ("::".intercalate (Source.crateName :: segments)))
            (directoryOf ("::".intercalate (Source.crateName :: others))) ↔ names = otherNames) := by
  refine ⟨?file, ?nested, ?apart⟩
  case file =>
    intro path directories stem hPath hWords
    have hModules : ∀ part ∈ fileModules directories stem, IsWord part.toList ∧ part ≠ Source.crateName :=
      fun part hPart => hWords part (fileModules_subset hPart)
    have hParts : List.Forall₂ NamesPart (fileModules directories stem) (fileModules directories stem) :=
      List.forall₂_same.mpr fun part hPart =>
        namesPart_of_spells ⟨(hModules part hPart).1, .inl rfl⟩ (hModules part hPart).2
    have hStem := isName_of_isWord (hWords stem (List.mem_append_right _ List.mem_cons_self)).1
    rw [moduleOfFile_of_goesBy hPath hStem, directoryOf, directoryParts_intercalate hParts]
    exact ofParts_eq_intercalate fun part hPart => isName_of_isWord (hModules part hPart).1
  case nested =>
    intro moduleName segment name hSegment hCrate
    have hNonempty : segment.toList ≠ [] := by
      obtain ⟨c, rest, hText, _⟩ := hSegment.exists_head
      rw [hText]
      exact List.cons_ne_nil c rest
    exact ⟨directoryOf_nested hSegment hCrate, components_directoryOf_nested hSegment hCrate,
      not_leavesColon_nested hNonempty (namesPart_of_spells hSegment hCrate).noColon⟩
  case apart =>
    intro segments names others otherNames hSegments hOthers
    rw [Disk.Path.same_iff, goesBy_directoryOf hSegments, goesBy_directoryOf hOthers, Disk.Path.names_map_inj]

theorem directoryOf_mirrors_keywords :
    GoesBy "blog//match/mod.rs" (["blog", "match"] ++ ["mod" ++ ".rs"]) ∧
      (∀ part ∈ ["blog", "match"] ++ ["mod"], IsWord part.toList ∧ part ≠ Source.crateName) ∧
      directoryOf (Source.moduleOfFile "blog//match/mod.rs") = "blog/match" ∧
      Spells "r#type" "type" ∧ "type" ≠ Source.crateName ∧ ¬ LeavesColon "crate::blog" ∧
      directoryOf "crate::blog::r#type" = join (directoryOf "crate::blog") "type" ∧
      same (directoryOf "crate::blog::r#type") (directoryOf "crate::r#blog::type") := by
  obtain ⟨hFile, hNested, hApart⟩ := directoryOf_mirrors
  have hPath : GoesBy "blog//match/mod.rs" (["blog", "match"] ++ ["mod" ++ ".rs"]) := by decide
  have hWords : ∀ part ∈ ["blog", "match"] ++ ["mod"], IsWord part.toList ∧ part ≠ Source.crateName := by
    decide +kernel
  have hType : Spells "r#type" "type" := ⟨by decide, .inr ⟨rfl, by decide⟩⟩
  have hBlog : Spells "blog" "blog" := ⟨by decide, .inl rfl⟩
  have hRawBlog : Spells "r#blog" "blog" := ⟨by decide, .inr ⟨rfl, by decide⟩⟩
  have hPlainType : Spells "type" "type" := ⟨by decide, .inl rfl⟩
  have hColon : ¬ LeavesColon "crate::blog" := (hNested "crate" "blog" "blog" hBlog (by decide)).2.2
  exact ⟨hPath, hWords, hFile _ _ _ hPath hWords, hType, by decide, hColon,
    (hNested "crate::blog" "r#type" "type" hType (by decide)).1 hColon,
    (hApart ["blog", "r#type"] ["blog", "type"] ["r#blog", "type"] ["blog", "type"]
      (.cons ⟨hBlog, by decide⟩ (.cons ⟨hType, by decide⟩ .nil))
      (.cons ⟨hRawBlog, by decide⟩ (.cons ⟨hPlainType, by decide⟩ .nil))).mpr rfl⟩

def nestedFactory : String := "pub mod x \x7b\n#[factory(table = \"users\")]\npub struct UserFactory;\n\x7d\n"

/-- In a file whose name ends in a colon, a nested module gets the colon into its own directory. -/
theorem directory_of_trailing_colon :
    Source.moduleOfFile "a:.rs" = "crate::a:" ∧
      ({} : Source.Index).addSource "crate::a:" "a:.rs" nestedFactory =
        (⟨[⟨"users", "UserFactory", "crate::a:" ++ "::" ++ "x", "a:.rs"⟩], [("UserFactory", ["crate::a:::x"])]⟩, none) ∧
      Spells "x" "x" ∧ "x" ≠ Source.crateName ∧
      components (directoryOf ("crate::a:" ++ "::" ++ "x")) = [.name "a", .name ":x"] ∧
      components (directoryOf ("crate::a:" ++ "::" ++ "x")) ≠ components (directoryOf "crate::a:") ++ [.name "x"] :=
  ⟨by decide +kernel, by decide +kernel, ⟨by decide, .inl rfl⟩, by decide, by decide, by decide⟩

end RowFactory.Generation
