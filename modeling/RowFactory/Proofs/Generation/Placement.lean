import RowFactory.Proofs.Code.Idents
import RowFactory.Proofs.Disk.Paths
import RowFactory.Proofs.Factory.Plans
import RowFactory.Proofs.Generation.Tables
import RowFactory.Proofs.Text.Stems

/-! # Paths of generated files

The name of a file tells its kind and the stem of its table, and its path the directory as well.
-/

namespace RowFactory.Generation

open Disk.Path (IsName same join)
open Source (Declaration Index)

def stemOf (table : String) : String := Text.snakeCase (baseName table)

def fileName (stem : String) (kind : FileKind) : String := stem ++ kind.suffix ++ ".rs"

theorem unitPath_eq (moduleName table : String) (kind : FileKind) :
    unitPath moduleName table kind = join (directoryOf moduleName) (fileName (stemOf table) kind) := rfl

theorem indexName_eq : indexName = fileName "" .moduleIndex := by decide

/-- The last letter before the ending of a file name tells its kind. -/
theorem getLast?_suffix (kind : FileKind) :
    kind.suffix.toList.getLast? = some (match kind with
      | .blockBuilder => 'l'
      | .stateBuilder => 'r'
      | .moduleIndex => 'd') := by
  cases kind <;> decide

theorem fileName_inj {stem other : String} {kind otherKind : FileKind} :
    fileName stem kind = fileName other otherKind ↔ stem = other ∧ kind = otherKind := by
  constructor
  · intro h
    have hNames : stem ++ kind.suffix = other ++ otherKind.suffix := String.append_left_inj ".rs" |>.mp h
    have hLast (text : String) (kind : FileKind) :
        (text ++ kind.suffix).toList.getLast? = kind.suffix.toList.getLast? := by
      rw [String.toList_append, List.getLast?_append, getLast?_suffix]
      rfl
    have hKinds : kind.suffix.toList.getLast? = otherKind.suffix.toList.getLast? := by
      rw [← hLast stem, hNames, hLast]
    have hKind : kind = otherKind := by
      rw [getLast?_suffix, getLast?_suffix] at hKinds
      revert hKinds
      cases kind <;> cases otherKind <;> decide
    subst hKind
    exact ⟨String.append_left_inj kind.suffix |>.mp hNames, rfl⟩
  · rintro ⟨rfl, rfl⟩
    rfl

theorem isName_fileName {stem : String} (h : '/' ∉ stem.toList) (kind : FileKind) : IsName (fileName stem kind) where
  noSlash := by
    rw [fileName, String.toList_append, String.toList_append, List.mem_append, List.mem_append]
    rintro ((hSlash | hSlash) | hSlash)
    · exact h hSlash
    · revert hSlash
      cases kind <;> decide
    · revert hSlash
      decide
  noPoints := by
    intro hPoints
    have hLength : 3 ≤ (fileName stem kind).toList.length := by
      rw [fileName, String.toList_append, List.length_append]
      exact Nat.le_add_left 3 _
    simp only [List.mem_cons, List.not_mem_nil, or_false] at hPoints
    rcases hPoints with hPoints | hPoints | hPoints <;> simp [hPoints] at hLength

theorem isName_indexName : IsName indexName := indexName_eq ▸ isName_fileName (by decide) .moduleIndex

theorem noSlash_stemOf (table : String) : '/' ∉ (stemOf table).toList := by
  intro hSlash
  rcases Text.wordly_of_mem_snakeCase (fun _ hc => Text.wordly_of_mem_pascalCase hc) hSlash with hc | hc
  · exact absurd hc (by decide)
  · exact absurd (hc (by decide)) (by decide)

theorem isName_unit (table : String) (kind : FileKind) : IsName (fileName (stemOf table) kind) :=
  isName_fileName (noSlash_stemOf table) kind

theorem same_unitPath_iff {moduleName otherModule table other : String} {kind otherKind : FileKind} :
    same (unitPath moduleName table kind) (unitPath otherModule other otherKind) ↔
      same (directoryOf moduleName) (directoryOf otherModule) ∧ stemOf table = stemOf other ∧
        kind = otherKind := by
  rw [unitPath_eq, unitPath_eq, Disk.Path.same_join_iff (isName_unit table kind) (isName_unit other otherKind),
    fileName_inj]

/-- A base name that begins identifiers has only letters and digits, as no letter case of a word has an
underscore. -/
theorem isAlphanum_of_mem_baseName {table suffix : String} (h : Code.isPlainName (baseName table ++ suffix).toList)
    {c : Char} (hc : c ∈ (baseName table).toList) : c.isAlphanum := by
  have hRest : Code.isAsciiWordRest c :=
    Code.isAsciiWordRest_of_mem h (String.toList_append ▸ List.mem_append_left _ hc)
  rcases Bool.or_eq_true_iff.mp hRest with hAlphanum | hUnderscore
  · exact hAlphanum
  · rw [beq_iff_eq.mp hUnderscore] at hc
    exact absurd (Text.wordly_of_mem_pascalCase hc (by decide)) (by decide)

theorem isPlainName_unit {table suffix : String} (h : Code.isPlainName (baseName table ++ suffix).toList)
    {kind : FileKind} (hKind : kind ≠ .moduleIndex) : Code.isPlainName (stemOf table ++ kind.suffix).toList := by
  have hBase : ∀ c ∈ (baseName table).toList, c.isAlphanum := fun c hc => isAlphanum_of_mem_baseName h hc
  have hSuffix : kind.suffix.toList.head? = some '_' ∧ ∀ c ∈ kind.suffix.toList, Code.isAsciiWordRest c := by
    rw [← List.all_eq_true]
    revert hKind
    cases kind <;> decide
  have hRest : ∀ c ∈ (stemOf table ++ kind.suffix).toList, Code.isAsciiWordRest c := by
    intro c hc
    rw [String.toList_append] at hc
    rcases List.mem_append.mp hc with hc | hc
    · rw [Code.isAsciiWordRest, Bool.or_eq_true, beq_iff_eq]
      exact (Text.isAlphanum_of_mem_snakeCase hBase hc).symm
    · exact hSuffix.2 c hc
  have hStart : ∀ c, (stemOf table ++ kind.suffix).toList.head? = some c → Code.isAsciiWordStart c := by
    intro c hc
    rw [String.toList_append, List.head?_append] at hc
    cases hStem : (stemOf table).toList.head? with
    | none =>
      rw [hStem, Option.none_or, hSuffix.1] at hc
      cases hc
      decide
    | some first =>
      rw [hStem] at hc
      cases hc
      rcases Text.head?_snakeCase hBase hStem with rfl | ⟨initial, hInitial, rfl⟩
      · decide
      · exact Code.isAsciiWordStart_toLower (Code.isAsciiWordStart_of_head? h (by
          rw [String.toList_append, List.head?_append, hInitial]
          rfl))
  refine Code.isPlainName_of_chars hStart hRest ?_
  rw [String.toList_append]
  intro hNil
  rw [(List.append_eq_nil_iff.mp hNil).2] at hSuffix
  cases hSuffix.1

theorem name_of_resolve {catalog : Schema.Catalog} {table declaredBy : String} {t : Metadata.Table}
    (h : Metadata.resolve catalog table declaredBy = .ok t) : t.name = table := by
  rw [Metadata.resolve] at h
  split at h
  · rename_i found hFound
    have hName : found.name = table := by simpa using List.find?_some hFound
    cases h
    exact hName
  · cases h

theorem Generated.ofName?_unit {catalog : Schema.Catalog} {options : Options} {index : Index} {d : Declaration}
    {output : TableOutput} (h : Generated catalog options index d output) {kind : FileKind}
    (hKind : kind ≠ .moduleIndex) : (Code.Ident.ofName? (stemOf d.table ++ kind.suffix)).isSome := by
  obtain ⟨t, _, plan, hResolve, _, _, hPlan, _⟩ := h
  have hDrafted := Factory.Plan.drafted (Factory.Plan.ofTable_eq_ok.mp hPlan).1
  have hPlain := Code.isPlainName_of_ident hDrafted.stateTrait
  rw [Metadata.Table.baseName, name_of_resolve hResolve] at hPlain
  have hNameable : stemOf d.table ++ kind.suffix ∉ Code.unnameable := by
    have hEndings : ∀ word ∈ Code.unnameable, ¬ kind.suffix.toList <:+ word.toList := by
      revert hKind
      cases kind <;> decide
    intro hMem
    apply hEndings _ hMem
    rw [String.toList_append]
    exact List.suffix_append _ _
  rw [Code.Ident.ofName?, if_neg (by simpa using hNameable), if_pos (isPlainName_unit hPlain hKind)]
  rfl

end RowFactory.Generation
