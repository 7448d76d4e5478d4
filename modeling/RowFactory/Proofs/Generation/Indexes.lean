import RowFactory.Proofs.Generation.Placement

/-! # Module indexes

A listing has every directory once, in the order of paths, so that no two indexes have one path.
-/

namespace RowFactory.Generation

open Disk.Path (before same join)

def Listing.Ascending (listing : Listing) : Prop := (listing.map (·.1)).Pairwise fun a b => before a b

theorem mem_addModule {directory name d : String} {listing : Listing}
    (h : d ∈ (addModule directory name listing).map (·.1)) : d = directory ∨ d ∈ listing.map (·.1) := by
  induction listing with
  | nil => exact .inl (by simpa [addModule] using h)
  | cons entry rest ih =>
    obtain ⟨first, names⟩ := entry
    rw [addModule] at h
    split at h
    · exact .inr h
    · split at h
      · exact List.mem_cons.mp h
      · rcases List.mem_cons.mp h with rfl | h
        · exact .inr List.mem_cons_self
        · exact (ih h).imp_right (List.mem_cons_of_mem _)

theorem ascending_addModule {listing : Listing} (h : listing.Ascending) (directory name : String) :
    (addModule directory name listing).Ascending := by
  induction listing with
  | nil => exact List.pairwise_singleton _ _
  | cons entry rest ih =>
    obtain ⟨first, names⟩ := entry
    obtain ⟨hFirst, hRest⟩ := List.pairwise_cons.mp h
    rw [addModule]
    split
    · exact h
    · rename_i hSame
      split
      · rename_i hBefore
        refine List.pairwise_cons.mpr ⟨fun d hd => ?_, h⟩
        rcases List.mem_cons.mp hd with rfl | hd
        · exact hBefore
        · exact Disk.Path.before_trans hBefore (hFirst d hd)
      · rename_i hBefore
        refine List.pairwise_cons.mpr ⟨fun d hd => ?_, ih hRest⟩
        rcases mem_addModule hd with rfl | hd
        · exact Disk.Path.before_of_not hSame hBefore
        · exact hFirst d hd

/-- A listing is made by adding modules to directories, one after the other. -/
theorem listingOf_induction {P : Listing → Prop} (hNil : P [])
    (hAdd : ∀ directory name listing, P listing → P (addModule directory name listing)) (paths : List String) :
    P (listingOf paths) := by
  have hLink (depth : Nat) (directory : String) (listing : Listing) (h : P listing) :
      P (linkAncestors depth directory listing) := by
    induction depth generalizing directory listing with
    | zero => exact h
    | succ depth ih =>
      rw [linkAncestors]
      split
      · exact h
      · exact ih _ _ (hAdd _ _ _ h)
  have hFold (listing : Listing) (h : P listing) :
      P (paths.foldl (fun listing path => addPath path listing) listing) := by
    induction paths generalizing listing with
    | nil => exact h
    | cons path rest ih =>
      have hPath : P (addPath path listing) := by
        rw [addPath]
        split
        · exact h
        · exact hLink _ _ _ (hAdd _ _ _ h)
      exact ih _ hPath
  exact hFold [] hNil

theorem ascending_listingOf (paths : List String) : (listingOf paths).Ascending :=
  listingOf_induction (P := Listing.Ascending) List.Pairwise.nil
    (fun directory name _ h => ascending_addModule h directory name) paths

theorem indexFile_eq_ok {directory : String} {names : List String} {file : GeneratedFile}
    (h : indexFile directory names = .ok file) :
    file.path = Disk.Path.join directory indexName ∧ file.kind = .moduleIndex := by
  rw [indexFile] at h
  obtain ⟨_, _, h⟩ := Results.bind_eq_ok.mp h
  obtain ⟨_, _, h⟩ := Results.bind_eq_ok.mp h
  cases h
  exact ⟨rfl, rfl⟩

theorem map_path_indexFiles {files indexes : List GeneratedFile} (h : indexFiles files = .ok indexes) :
    indexes.map (·.path) = (listingOf (files.map (·.path))).map fun entry => join entry.1 indexName := by
  have hEntries := Results.mapM_eq_ok.mp h
  generalize listingOf (files.map (·.path)) = listing at hEntries
  clear h
  induction hEntries with
  | nil => rfl
  | cons hEntry _ ih => rw [List.map_cons, List.map_cons, ih, (indexFile_eq_ok hEntry).1]

theorem pairwise_indexFiles {files indexes : List GeneratedFile} (h : indexFiles files = .ok indexes) :
    indexes.Pairwise fun f g => ¬ same f.path g.path := by
  have hListing := ascending_listingOf (files.map (·.path))
  have hPaths := map_path_indexFiles h
  rw [← List.pairwise_map (f := GeneratedFile.path) (R := fun a b => ¬ same a b), hPaths, List.pairwise_map]
  refine (List.pairwise_map.mp hListing).imp fun {a b} hBefore hSame => ?_
  have hDirectories := (Disk.Path.same_join_iff isName_indexName isName_indexName).mp hSame
  exact Disk.Path.not_same_of_before hBefore hDirectories.1

end RowFactory.Generation
