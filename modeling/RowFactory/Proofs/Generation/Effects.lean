import RowFactory.Proofs.Disk.Changes
import RowFactory.Proofs.Generation.Accounting
import RowFactory.Proofs.Generation.Writing

/-! # What a run leaves on disk

After an output has been written, every file of it is in its place and nothing else has changed, apart from
directories that were missing. After stale files have been removed, their places are empty and nothing else
has changed.
-/

namespace RowFactory.Generation

open Disk (Tree run_bind_eq_ok run_readText run_removeFile)
open Disk.Tree (Extends Keeps placeOf)
open Disk.Path (join)

/-- What has been written: at a place with several files one of them. -/
structure Writes (files : List GeneratedFile) (directory : String) (t changed : Tree) : Prop where
  sound : changed.Sound
  home : changed.home = t.home
  written : ∀ f ∈ files, ∃ g ∈ files, placeBelow t.home directory g = placeBelow t.home directory f ∧
    changed.node? (placeBelow t.home directory f) = some (.file (.text g.content))
  others : ∀ p, (∀ f ∈ files, placeBelow t.home directory f ≠ p) →
    changed.node? p = t.node? p ∨ (t.node? p = none ∧ changed.node? p = some .directory)

theorem writes_writeFile {directory : String} {summary changedSummary : WriteSummary} {f : GeneratedFile}
    {t changed : Tree} (hSound : t.Sound)
    (h : (writeFile (m := StateM Tree) directory summary f).run t = (.ok changedSummary, changed)) :
    Writes [f] directory t changed := by
  rcases writeFile_cases h with ⟨hRead, _, rfl⟩ | ⟨made, hMade, hWrite, _⟩
  · refine ⟨hSound, rfl, ?_, fun p _ => .inl rfl⟩
    intro g hg
    rw [List.mem_singleton.mp hg]
    exact ⟨f, List.mem_cons_self, rfl, Disk.Tree.node?_of_readText hRead⟩
  · obtain ⟨hMadeSound, hExtends⟩ : made.Sound ∧ Extends t made := by
      rcases hMade with rfl | ⟨parent, rfl⟩
      · exact ⟨hSound, .refl _⟩
      · exact hSound.createDirectories parent
    obtain ⟨hChanged, hHome, hNode⟩ := hMadeSound.write hWrite
    rw [hExtends.home] at hHome hNode
    refine ⟨hChanged, hHome, ?_, ?_⟩
    · intro g hg
      rw [List.mem_singleton.mp hg]
      exact ⟨f, List.mem_cons_self, rfl, by rw [hNode, placeBelow, if_pos rfl]⟩
    · intro p hp
      have hOther : p ≠ placeOf t.home (join directory f.path) := Ne.symm (hp f List.mem_cons_self)
      rw [hNode, if_neg hOther]
      exact hExtends.node p

theorem Writes.cons {directory : String} {f : GeneratedFile} {rest : List GeneratedFile} {t made changed : Tree}
    (hFirst : Writes [f] directory t made) (hRest : Writes rest directory made changed) :
    Writes (f :: rest) directory t changed := by
  obtain ⟨hSound, hHome, hWritten, hOthers⟩ := hRest
  rw [hFirst.home] at hHome hWritten hOthers
  refine ⟨hSound, hHome, ?_, ?_⟩
  · intro g hg
    by_cases hLater : ∃ other ∈ rest, placeBelow t.home directory other = placeBelow t.home directory g
    · obtain ⟨other, hOther, hPlace⟩ := hLater
      obtain ⟨last, hLast, hLastPlace, hNode⟩ := hWritten other hOther
      rw [hPlace] at hLastPlace hNode
      exact ⟨last, List.mem_cons_of_mem f hLast, hLastPlace, hNode⟩
    · have hNone : ∀ other ∈ rest, placeBelow t.home directory other ≠ placeBelow t.home directory g :=
        fun other hOther hPlace => hLater ⟨other, hOther, hPlace⟩
      rcases List.mem_cons.mp hg with rfl | hg
      · obtain ⟨only, hOnly, hPlace, hNode⟩ := hFirst.written g List.mem_cons_self
        rw [List.mem_singleton.mp hOnly] at hNode
        refine ⟨g, List.mem_cons_self, rfl, ?_⟩
        rcases hOthers _ hNone with hSame | ⟨hMissing, _⟩
        · rw [hSame, hNode]
        · rw [hNode] at hMissing
          cases hMissing
      · exact absurd rfl (hNone g hg)
  · intro p hp
    have hFirstNode := hFirst.others p fun g hg => List.mem_singleton.mp hg ▸ hp f List.mem_cons_self
    rcases hOthers p fun g hg => hp g (List.mem_cons_of_mem f hg) with hSame | ⟨hMissing, hNode⟩
    · rw [hSame]
      exact hFirstNode
    · rcases hFirstNode with hSame | ⟨hMissingFirst, hNodeFirst⟩
      · exact .inr ⟨hSame ▸ hMissing, hNode⟩
      · rw [hNodeFirst] at hMissing
        cases hMissing

theorem writes_writeFiles {directory : String} {files : List GeneratedFile} {summary changedSummary : WriteSummary}
    {t changed : Tree} (hSound : t.Sound)
    (h : (files.foldlM (writeFile (m := StateM Tree) directory) summary).run t =
      (.ok changedSummary, changed)) : Writes files directory t changed := by
  induction files generalizing summary t with
  | nil =>
    obtain ⟨-, rfl⟩ := Prod.mk.inj h
    exact ⟨hSound, rfl, fun _ hf => absurd hf List.not_mem_nil, fun _ _ => .inl rfl⟩
  | cons f rest ih =>
    rw [List.foldlM_cons] at h
    obtain ⟨_, made, hFile, hRest⟩ := run_bind_eq_ok h
    have hFirst := writes_writeFile hSound hFile
    exact hFirst.cons (ih hFirst.sound hRest)

def HoldsGenerated (t : Tree) (path : String) : Prop := ∃ text, t.readText path = .ok text ∧ Source.isGenerated text

theorem holdsGenerated_iff {t : Tree} {path : String} :
    HoldsGenerated t path ↔ (((t.readText path).toOption).map Source.isGenerated).getD false = true := by
  rw [HoldsGenerated]
  cases t.readText path <;> simp [Except.toOption]

theorem HoldsGenerated.exists_node {t : Tree} {path : String} (h : HoldsGenerated t path) :
    ∃ text, t.node? (placeOf t.home path) = some (.file (.text text)) ∧ Source.isGenerated text := by
  obtain ⟨text, hRead, hText⟩ := h
  exact ⟨text, Disk.Tree.node?_of_readText hRead, hText⟩

theorem HoldsGenerated.of_keeps {t changed : Tree} {path : String} (h : HoldsGenerated changed path)
    (hKeeps : Keeps (fun _ => False) changed t) : HoldsGenerated t path := by
  obtain ⟨text, hRead, hText⟩ := h
  exact ⟨text, hKeeps.readText hRead id, hText⟩

/-- What can be read after some places were emptied could be read before. -/
theorem keeps_of_emptied {t changed : Tree} {gone : Disk.Place → Prop} [DecidablePred gone]
    (hHome : changed.home = t.home) (hNode : ∀ p, changed.node? p = if gone p then none else t.node? p) :
    Keeps (fun _ => False) changed t := by
  have hSame {p : Disk.Place} {node : Disk.Node} (hp : changed.node? p = some node) : t.node? p = some node := by
    rw [hNode] at hp
    split at hp
    · cases hp
    · exact hp
  exact ⟨hHome.symm, fun _ => hSame, fun _ _ _ => hSame⟩

theorem run_removeGenerated {t : Tree} {directory path : String} (h : HoldsGenerated t (join directory path))
    (removed : List String) :
    (removeGenerated (m := StateM Tree) directory removed path).run t =
      (.ok (removed ++ [join directory path]), t.remove (placeOf t.home (join directory path))) := by
  obtain ⟨text, hRead, hText⟩ := h
  obtain ⟨place, hLocate, hNode, hEnd⟩ := Disk.Tree.readText_eq_ok.mp hRead
  have hAt : t.nodeAt? (join directory path) = some (.file (.text text)) := by
    rw [Disk.Tree.nodeAt?, hLocate]
    simp [hNode, hEnd]
  rw [removeGenerated, run_readText, if_pos (holdsGenerated_iff.mp ⟨text, hRead, hText⟩), run_removeFile, hAt,
    hLocate, ← Disk.Tree.locate_eq_placeOf hLocate]
  rfl

theorem run_removeGenerated_of_not {t : Tree} {directory path : String} (h : ¬ HoldsGenerated t (join directory path))
    (removed : List String) :
    (removeGenerated (m := StateM Tree) directory removed path).run t = (.ok removed, t) := by
  rw [removeGenerated, run_readText, if_neg fun hHolds => h (holdsGenerated_iff.mpr hHolds)]
  rfl

theorem removeGenerated_cases {directory path : String} {removed result : List String} {t changed : Tree}
    (hSound : t.Sound)
    (h : (removeGenerated (m := StateM Tree) directory removed path).run t = (.ok result, changed)) :
    (HoldsGenerated t (join directory path) ∧ result = removed ++ [join directory path] ∧ changed.Sound ∧
      changed.home = t.home ∧ ∀ p, changed.node? p =
        if p = placeOf t.home (join directory path) then none else t.node? p) ∨
    (¬ HoldsGenerated t (join directory path) ∧ result = removed ∧ changed = t) := by
  by_cases hHolds : HoldsGenerated t (join directory path)
  · rw [run_removeGenerated hHolds] at h
    obtain ⟨hResult, rfl⟩ := Prod.mk.inj h
    obtain ⟨text, hText, _⟩ := hHolds.exists_node
    obtain ⟨hChanged, hNodes⟩ := hSound.remove hText
    exact .inl ⟨hHolds, (Except.ok.inj hResult).symm, hChanged, rfl, hNodes⟩
  · rw [run_removeGenerated_of_not hHolds] at h
    obtain ⟨hResult, hChanged⟩ := Prod.mk.inj h
    exact .inr ⟨hHolds, (Except.ok.inj hResult).symm, hChanged.symm⟩

/-- What has been removed: the generated files at the given paths. -/
structure Removes (paths removed : List String) (directory : String) (t changed : Tree) : Prop where
  sound : changed.Sound
  home : changed.home = t.home
  listed : ∀ path ∈ removed, ∃ stale ∈ paths, path = join directory stale
  generated : ∀ path ∈ removed, ∃ text, t.node? (placeOf t.home path) = some (.file (.text text)) ∧
    Source.isGenerated text
  node : ∀ p, changed.node? p = if p ∈ removed.map (placeOf t.home) then none else t.node? p
  /-- None of the paths leads to a generated file any more. -/
  complete : ∀ stale ∈ paths, ¬ HoldsGenerated changed (join directory stale)

theorem Removes.keeps {paths removed : List String} {directory : String} {t changed : Tree}
    (h : Removes paths removed directory t changed) : Keeps (fun _ => False) changed t :=
  keeps_of_emptied h.home h.node

theorem Removes.cons {stale directory : String} {rest removed : List String} {t made changed : Tree}
    (hHolds : HoldsGenerated t (join directory stale)) (hHome : made.home = t.home)
    (hNode : ∀ p, made.node? p = if p = placeOf t.home (join directory stale) then none else t.node? p)
    (h : Removes rest removed directory made changed) :
    Removes (stale :: rest) (join directory stale :: removed) directory t changed := by
  obtain ⟨text, hText, hGenerated⟩ := hHolds.exists_node
  have hNodes : ∀ p, changed.node? p =
      if p ∈ (join directory stale :: removed).map (placeOf t.home) then none else t.node? p := by
    intro p
    rw [h.node, hHome, hNode, List.map_cons]
    by_cases hMem : p ∈ removed.map (placeOf t.home)
    · simp [hMem]
    · simp [hMem]
  refine ⟨h.sound, h.home.trans hHome, ?_, ?_, hNodes, ?_⟩
  · refine List.forall_mem_cons.mpr ⟨⟨stale, List.mem_cons_self, rfl⟩, fun path hPath => ?_⟩
    obtain ⟨other, hOther, hJoin⟩ := h.listed path hPath
    exact ⟨other, List.mem_cons_of_mem stale hOther, hJoin⟩
  · refine List.forall_mem_cons.mpr ⟨⟨text, hText, hGenerated⟩, fun path hPath => ?_⟩
    -- A text that was there when the others were removed has been there from the start.
    obtain ⟨other, hOther, hOtherGenerated⟩ := h.generated path hPath
    rw [hHome, hNode] at hOther
    split at hOther
    · cases hOther
    · exact ⟨other, hOther, hOtherGenerated⟩
  · refine List.forall_mem_cons.mpr ⟨fun hAgain => ?_, h.complete⟩
    obtain ⟨other, hOther, _⟩ := hAgain.exists_node
    rw [h.home, hHome, hNodes, if_pos (by simp)] at hOther
    cases hOther

theorem Removes.cons_kept {stale directory : String} {rest removed : List String} {t changed : Tree}
    (hHolds : ¬ HoldsGenerated t (join directory stale)) (h : Removes rest removed directory t changed) :
    Removes (stale :: rest) removed directory t changed := by
  refine ⟨h.sound, h.home, fun path hPath => ?_, h.generated, h.node, List.forall_mem_cons.mpr ⟨?_, h.complete⟩⟩
  · obtain ⟨other, hOther, hJoin⟩ := h.listed path hPath
    exact ⟨other, List.mem_cons_of_mem stale hOther, hJoin⟩
  · exact fun hAgain => hHolds (hAgain.of_keeps h.keeps)

theorem removes_foldlM {directory : String} {paths start result : List String} {t changed : Tree}
    (hSound : t.Sound)
    (h : (paths.foldlM (removeGenerated (m := StateM Tree) directory) start).run t = (.ok result, changed)) :
    ∃ removed, result = start ++ removed ∧ Removes paths removed directory t changed := by
  induction paths generalizing start t with
  | nil =>
    obtain ⟨hResult, rfl⟩ := Prod.mk.inj h
    refine ⟨[], by rw [List.append_nil, Except.ok.inj hResult], ?_⟩
    exact ⟨hSound, rfl, nofun, nofun, fun _ => rfl, nofun⟩
  | cons stale rest ih =>
    rw [List.foldlM_cons] at h
    obtain ⟨_, made, hFirst, hRest⟩ := run_bind_eq_ok h
    rcases removeGenerated_cases hSound hFirst with ⟨hHolds, rfl, hMade, hHome, hNode⟩ | ⟨hHolds, rfl, rfl⟩
    · obtain ⟨removed, rfl, hRemoves⟩ := ih hMade hRest
      exact ⟨_, List.append_assoc _ _ _, hRemoves.cons hHolds hHome hNode⟩
    · obtain ⟨removed, rfl, hRemoves⟩ := ih hSound hRest
      exact ⟨removed, rfl, hRemoves.cons_kept hHolds⟩

theorem removes_removeStale {o : Outcome} {directory : String} {removed : List String} {t changed : Tree}
    (hSound : t.Sound) (h : (o.removeStale (m := StateM Tree) directory).run t = (.ok removed, changed)) :
    Removes o.stalePaths removed directory t changed := by
  obtain ⟨more, hMore, hRemoves⟩ := removes_foldlM hSound h
  rw [List.nil_append] at hMore
  exact hMore ▸ hRemoves

theorem isGenerated_of_renderFile {unit content : String} {items : List Code.Item}
    (h : Code.renderFile unit items = .ok content) : Source.isGenerated content := by
  rw [Code.renderFile] at h
  split at h
  · cases h
    rw [Source.isGenerated, String.toList_append, String.toList_append, List.append_assoc,
      List.isPrefixOf_iff_prefix]
    exact List.prefix_append _ _
  · cases h

theorem isGenerated_content {catalog : Schema.Catalog} {options : Options} {index : Source.Index} {f : GeneratedFile}
    (hf : f ∈ (process catalog options index).output.files) : Source.isGenerated f.content := by
  rcases List.mem_append.mp ((perm_files catalog options index).mem_iff.mp hf) with hf | hf
  · obtain ⟨_, _, _, hGenerated, hf⟩ := exists_generated hf
    obtain ⟨_, _, plan, _, _, _, _, hFiles⟩ := hGenerated
    obtain ⟨kind, _, hFile⟩ := Results.exists_of_mem hFiles hf
    exact isGenerated_of_renderFile (unitFile_eq_ok.mp hFile).2.2
  · obtain ⟨entry, _, hFile⟩ := Results.exists_of_mem (Results.mapM_eq_ok.mp (indexFiles_eq_indexesOf hf)) hf
    obtain ⟨_, _, hIdents⟩ := Results.bind_eq_ok.mp (show indexFile entry.1 entry.2 = .ok f from hFile)
    obtain ⟨_, hContent, hIndex⟩ := Results.bind_eq_ok.mp hIdents
    cases hIndex
    exact isGenerated_of_renderFile hContent

end RowFactory.Generation
