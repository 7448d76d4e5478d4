import RowFactory.Proofs.Disk.Names
import RowFactory.Proofs.Generation.Placement

/-! # Paths of modules

A module path is made of identifiers, of which some may be raw. The directory of the module goes down by their
names.
-/

namespace RowFactory.Generation

open Disk.Path (GoesBy IsName)

def IsSegment (segment name : String) : Prop :=
  (Code.Ident.ofName? name).isSome ∧ (segment = name ∨ segment = "r#" ++ name)

/-- The path of a module of the crate: identifiers of ASCII characters after the name of the crate. -/
def IsModulePath (moduleName : String) : Prop :=
  ∃ segments names, moduleName = "::".intercalate (Source.crateName :: segments) ∧
    List.Forall₂ IsSegment segments names

section Segment

variable {segment name : String}

theorem isAsciiWordRest_of_isSome (h : (Code.Ident.ofName? name).isSome) {c : Char} (hc : c ∈ name.toList) :
    Code.isAsciiWordRest c := by
  obtain ⟨i, hi⟩ := Option.isSome_iff_exists.mp h
  exact Code.isAsciiWordRest_of_ofName? hi hc

theorem isName_of_isSome (h : (Code.Ident.ofName? name).isSome) : IsName name where
  noSlash hSlash := absurd (isAsciiWordRest_of_isSome h hSlash) (by decide)
  noPoints := by
    intro hPoints
    obtain ⟨i, hi⟩ := Option.isSome_iff_exists.mp h
    have hPlain := (Code.Ident.ofName?_eq_some hi).1
    simp only [List.mem_cons, List.not_mem_nil, or_false] at hPoints
    rcases hPoints with hPoints | hPoints | hPoints <;> rw [hPoints] at hPlain <;> revert hPlain <;> decide

theorem dropRawMarks_of_noMark {text : List Char} (h : '#' ∉ text) : dropRawMarks text = text := by
  fun_cases dropRawMarks text with
  | case1 rest => simp at h
  | case2 => rfl

structure NamesPart (segment name : String) : Prop where
  noColon : ':' ∉ segment.toList
  notCrate : segment ≠ Source.crateName
  unmarked : String.ofList (dropRawMarks segment.toList) = name

theorem namesPart_of_noMark (hColon : ':' ∉ name.toList) (hMark : '#' ∉ name.toList) (hCrate : name ≠ Source.crateName)
    (hSegment : segment = name ∨ segment = "r#" ++ name) : NamesPart segment name := by
  rcases hSegment with rfl | rfl
  · exact ⟨hColon, hCrate, by rw [dropRawMarks_of_noMark hMark, String.ofList_toList]⟩
  · constructor
    case noColon =>
      rw [String.toList_append, List.mem_append, not_or]
      exact ⟨by decide, hColon⟩
    case notCrate =>
      intro hSame
      have hHeads : ("r#" ++ name).toList.head? = Source.crateName.toList.head? := by rw [hSame]
      rw [String.toList_append] at hHeads
      have hLetters : some 'r' = some 'c' := hHeads
      revert hLetters
      decide
    case unmarked =>
      rw [String.toList_append]
      change String.ofList (dropRawMarks name.toList) = name
      rw [dropRawMarks_of_noMark hMark, String.ofList_toList]

theorem IsSegment.namesPart (h : IsSegment segment name) : NamesPart segment name := by
  obtain ⟨hName, hSegment⟩ := h
  have hColon : ':' ∉ name.toList := fun hColon => absurd (isAsciiWordRest_of_isSome hName hColon) (by decide)
  have hMark : '#' ∉ name.toList := fun hMark => absurd (isAsciiWordRest_of_isSome hName hMark) (by decide)
  have hCrate : name ≠ Source.crateName := by
    rintro rfl
    revert hName
    decide
  exact namesPart_of_noMark hColon hMark hCrate hSegment

end Segment

theorem segmentsOf_ne_nil (segment text : List Char) : segmentsOf segment text ≠ [] := by
  fun_induction segmentsOf segment text <;> simp_all

/-- A text before a separator is cut as it is on its own, unless it leaves a colon that the separator would take. -/
theorem segmentsOf_append {segment text : List Char}
    (h : text ≠ [] → ∀ last, (segmentsOf segment text).getLast? = some last → last.toList.getLast? ≠ some ':')
    (rest : List Char) :
    segmentsOf segment (text ++ ':' :: ':' :: rest) = segmentsOf segment text ++ segmentsOf [] rest := by
  fun_induction segmentsOf segment text with
  | case1 segment => rw [List.nil_append, segmentsOf, List.singleton_append]
  | case2 segment more ih =>
    rw [List.cons_append, List.cons_append, segmentsOf, ih, List.cons_append]
    intro _ last hLast
    refine h (List.cons_ne_nil _ _) last ?_
    rw [List.getLast?_cons, hLast]
    rfl
  | case3 segment c more hSeparator ih =>
    rw [List.cons_append, segmentsOf, ih]
    · exact fun _ => h (List.cons_ne_nil c more)
    · -- A colon that is the last character would begin a separator with the one after it.
      rintro others rfl hMore
      cases more with
      | nil =>
        refine h (List.cons_ne_nil ':' []) (String.ofList (':' :: segment).reverse) ?_ ?_
        · rw [segmentsOf]
          rfl
        · simp
      | cons d more =>
        obtain ⟨rfl, _⟩ := List.cons.inj hMore
        exact hSeparator more rfl rfl

theorem segmentsOf_of_noColon {segment text : List Char} (h : ':' ∉ text) :
    segmentsOf segment text = [String.ofList (segment.reverse ++ text)] := by
  induction text generalizing segment with
  | nil => rw [segmentsOf, List.append_nil]
  | cons c text ih =>
    have hc : c ≠ ':' := fun hc => h (hc ▸ List.mem_cons_self)
    have hText : ':' ∉ text := fun hText => h (List.mem_cons_of_mem c hText)
    rw [segmentsOf, ih hText, List.reverse_cons, List.append_assoc, List.singleton_append]
    exact fun _ h => absurd h hc

theorem segmentsOf_intercalate {segments : List String} (hSegments : segments ≠ [])
    (h : ∀ segment ∈ segments, ':' ∉ segment.toList) :
    segmentsOf [] ("::".intercalate segments).toList = segments := by
  rw [String.toList_intercalate]
  induction segments with
  | nil => exact absurd rfl hSegments
  | cons segment rest ih =>
    have hSegment := h segment List.mem_cons_self
    cases rest with
    | nil =>
      rw [List.map_singleton, List.intercalate_singleton, segmentsOf_of_noColon hSegment, List.reverse_nil,
        List.nil_append, String.ofList_toList]
    | cons next others =>
      rw [List.map_cons, List.map_cons, List.intercalate_cons_cons, List.append_assoc]
      change segmentsOf [] (segment.toList ++ ':' :: ':' ::
        "::".toList.intercalate ((next :: others).map String.toList)) = _
      have hOnly : segmentsOf [] segment.toList = [segment] := by
        rw [segmentsOf_of_noColon hSegment, List.reverse_nil, List.nil_append, String.ofList_toList]
      rw [segmentsOf_append, hOnly, ih (List.cons_ne_nil next others) fun other hOther =>
        h other (List.mem_cons_of_mem _ hOther), List.singleton_append]
      intro _ last hLast hColon
      rw [hOnly] at hLast
      cases hLast
      exact hSegment (List.mem_of_getLast? hColon)

theorem directoryParts_intercalate {segments names : List String} (h : List.Forall₂ NamesPart segments names) :
    directoryParts ("::".intercalate (Source.crateName :: segments)) = names := by
  have hColons : ∀ segment ∈ Source.crateName :: segments, ':' ∉ segment.toList := by
    refine List.forall_mem_cons.mpr ⟨by decide, fun segment hSegment => ?_⟩
    obtain ⟨name, _, hPart⟩ := Results.exists_of_mem_left h hSegment
    exact hPart.noColon
  have hKept : segments.filter (· ≠ Source.crateName) = segments := by
    refine List.filter_eq_self.mpr fun segment hSegment => ?_
    obtain ⟨name, _, hPart⟩ := Results.exists_of_mem_left h hSegment
    exact decide_eq_true hPart.notCrate
  rw [directoryParts, segmentsOf_intercalate (List.cons_ne_nil _ _) hColons, List.filter_cons_of_neg (by decide),
    hKept]
  clear hColons hKept
  induction h with
  | nil => rfl
  | cons hPart _ ih => rw [List.map_cons, hPart.unmarked, ih]

theorem IsModulePath.exists_goesBy {moduleName : String} (h : IsModulePath moduleName) :
    ∃ names, GoesBy (directoryOf moduleName) names ∧ ∀ name ∈ names, (Code.Ident.ofName? name).isSome := by
  obtain ⟨segments, names, rfl, hSegments⟩ := h
  have hNames : ∀ name ∈ names, (Code.Ident.ofName? name).isSome := by
    intro name hName
    obtain ⟨segment, _, hSegment⟩ := Results.exists_of_mem hSegments hName
    exact hSegment.1
  refine ⟨names, ?_, hNames⟩
  rw [directoryOf, directoryParts_intercalate (hSegments.imp fun _ _ => IsSegment.namesPart)]
  exact Disk.Path.goesBy_ofParts fun name hName => isName_of_isSome (hNames name hName)

end RowFactory.Generation
