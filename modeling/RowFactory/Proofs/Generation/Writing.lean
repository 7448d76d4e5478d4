import RowFactory.Generation.Writing
import RowFactory.Proofs.Disk.Runs
import RowFactory.Proofs.Disk.Trees

/-! # Writing files

A run of `Output.write` that succeeds leaves every file with its content, as long as no two of them lead to
one place.
-/

namespace RowFactory.Generation

open Disk (Tree Place run_bind_eq_ok run_createDirectories run_readText run_writeText)
open Disk.Tree (Keeps placeOf)

def placeBelow (home : Place) (directory : String) (f : GeneratedFile) : Place :=
  placeOf home (Disk.Path.join directory f.path)

theorem placeBelow_inj {f g : GeneratedFile} (hf : Disk.Path.NamesOnly f.path) (hg : Disk.Path.NamesOnly g.path)
    (home : Place) (directory : String) :
    placeBelow home directory f = placeBelow home directory g ↔ Disk.Path.same f.path g.path := by
  rw [placeBelow, placeBelow, Disk.Tree.placeOf_join_names hf, Disk.Tree.placeOf_join_names hg, List.append_right_inj,
    hf.names_inj hg]

/-- A file is left alone if it is in place. Otherwise it is written, after the directories above it were made. -/
theorem writeFile_cases {directory : String} {summary next : WriteSummary} {f : GeneratedFile} {t changed : Tree}
    (h : (writeFile (m := StateM Tree) directory summary f).run t = (.ok next, changed)) :
    (t.readText (Disk.Path.join directory f.path) = .ok f.content ∧
      next = { summary with unchanged := summary.unchanged ++ [Disk.Path.join directory f.path] } ∧ changed = t) ∨
    ∃ made, (made = t ∨ ∃ parent, made = (t.createDirectories parent).1) ∧
      made.write (Disk.Path.join directory f.path) (.text f.content) = .ok changed ∧
      next = { summary with written := summary.written ++ [Disk.Path.join directory f.path] } := by
  rw [writeFile, run_readText] at h
  split at h
  · rename_i hSame
    obtain ⟨hNext, rfl⟩ := Prod.mk.inj h
    refine .inl ⟨?_, (Except.ok.inj hNext).symm, rfl⟩
    cases hRead : t.readText (Disk.Path.join directory f.path) with
    | error reason => simp [hRead, Except.toOption] at hSame
    | ok text => simpa [hRead, Except.toOption] using hSame
  · split at h
    · rename_i parent _
      rw [run_createDirectories] at h
      cases hComplete : (t.createDirectories parent).2 with
      | false =>
        rw [hComplete] at h
        cases h
      | true =>
        simp only [hComplete, if_true, run_writeText] at h
        split at h
        · rename_i hWrite
          obtain ⟨hNext, rfl⟩ := Prod.mk.inj h
          exact .inr ⟨_, .inr ⟨parent, rfl⟩, hWrite, (Except.ok.inj hNext).symm⟩
        · cases h
    · rw [run_writeText] at h
      split at h
      · rename_i hWrite
        obtain ⟨hNext, rfl⟩ := Prod.mk.inj h
        exact .inr ⟨t, .inl rfl, hWrite, (Except.ok.inj hNext).symm⟩
      · cases h

theorem writeFile_eq_ok {directory : String} {summary changedSummary : WriteSummary} {f : GeneratedFile}
    {t changed : Tree}
    (h : (writeFile (m := StateM Tree) directory summary f).run t = (.ok changedSummary, changed)) :
    Keeps (· = placeBelow t.home directory f) t changed ∧
      changed.readText (Disk.Path.join directory f.path) = .ok f.content := by
  rcases writeFile_cases h with ⟨hRead, _, rfl⟩ | ⟨made, hMade, hWrite, _⟩
  · exact ⟨.refl _ _, hRead⟩
  · have hKeeps : Keeps (· = placeBelow t.home directory f) t made := by
      rcases hMade with rfl | ⟨parent, rfl⟩
      · exact .refl _ _
      · exact Disk.Tree.keeps_createDirectories _ t parent
    obtain ⟨hFile, hRead⟩ := Disk.Tree.write_eq_ok hWrite
    rw [hKeeps.home] at hFile
    exact ⟨hKeeps.trans hFile, hRead⟩

theorem keeps_writeFiles {directory : String} {files : List GeneratedFile} {summary changedSummary : WriteSummary}
    {t changed : Tree}
    (h : (files.foldlM (writeFile (m := StateM Tree) directory) summary).run t =
      (.ok changedSummary, changed)) :
    Keeps (fun place => ∃ f ∈ files, place = placeBelow t.home directory f) t changed := by
  induction files generalizing summary t with
  | nil =>
    obtain ⟨-, rfl⟩ := Prod.mk.inj h
    exact .refl _ t
  | cons f rest ih =>
    rw [List.foldlM_cons] at h
    obtain ⟨_, made, hFile, hRest⟩ := run_bind_eq_ok h
    obtain ⟨hKeeps, _⟩ := writeFile_eq_ok hFile
    have hKeepsRest := ih hRest
    rw [hKeeps.home] at hKeepsRest
    refine (hKeeps.mono ?_).trans (hKeepsRest.mono ?_)
    · exact fun place hPlace => ⟨f, List.mem_cons_self, hPlace⟩
    · exact fun place ⟨g, hg, hPlace⟩ => ⟨g, List.mem_cons_of_mem _ hg, hPlace⟩

/-- Files that could all be written have their content, if files with one place have one content. -/
theorem readText_of_writeFiles {directory : String} {files : List GeneratedFile}
    {summary changedSummary : WriteSummary} {t changed : Tree}
    (hPlaces : ∀ f ∈ files, ∀ g ∈ files,
      placeBelow t.home directory f = placeBelow t.home directory g → f.content = g.content)
    (h : (files.foldlM (writeFile (m := StateM Tree) directory) summary).run t =
      (.ok changedSummary, changed)) :
    ∀ f ∈ files, changed.readText (Disk.Path.join directory f.path) = .ok f.content := by
  induction files generalizing summary t with
  | nil => exact fun f hf => absurd hf List.not_mem_nil
  | cons f rest ih =>
    rw [List.foldlM_cons] at h
    obtain ⟨_, made, hFile, hRest⟩ := run_bind_eq_ok h
    obtain ⟨hKeeps, hRead⟩ := writeFile_eq_ok hFile
    rw [← hKeeps.home] at hPlaces
    have hReadRest := ih (fun g hg other hOther =>
      hPlaces g (List.mem_cons_of_mem _ hg) other (List.mem_cons_of_mem _ hOther)) hRest
    intro g hg
    rcases List.mem_cons.mp hg with rfl | hg
    · by_cases hAgain : ∃ other ∈ rest, placeBelow made.home directory g = placeBelow made.home directory other
      · obtain ⟨other, hOther, hPlace⟩ := hAgain
        rw [hPlaces g List.mem_cons_self other (List.mem_cons_of_mem _ hOther) hPlace]
        exact (keeps_writeFiles hRest).readText_of_placeOf_eq hRead hPlace (hReadRest other hOther)
      · exact (keeps_writeFiles hRest).readText hRead hAgain
    · exact hReadRest g hg

/-- After an output has been written, each of its files has its content just if no two files with different
contents lead to one place. -/
theorem Output.readText_of_write_iff {o : Output} {directory : String} {summary : WriteSummary} {t changed : Tree}
    (h : (o.write (m := StateM Tree) directory).run t = (.ok summary, changed)) :
    (∀ f ∈ o.files, changed.readText (Disk.Path.join directory f.path) = .ok f.content) ↔
      ∀ f ∈ o.files, ∀ g ∈ o.files,
        placeBelow t.home directory f = placeBelow t.home directory g → f.content = g.content := by
  constructor
  · intro hRead f hf g hg hPlace
    rw [← (keeps_writeFiles h).home] at hPlace
    exact Disk.Tree.readText_of_placeOf_eq hPlace (hRead f hf) (hRead g hg)
  · exact fun hPlaces => readText_of_writeFiles hPlaces h

end RowFactory.Generation
