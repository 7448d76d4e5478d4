import Mathlib.Data.List.Forall2
import Mathlib.Data.List.Sort
import Mathlib.Data.String.Basic
import RowFactory.Ascending

/-! # Ascending lists

What insertion does to the members of a list and to the values of a table, and that both stay ascending. A list that
ascends is known by its members.
-/

namespace RowFactory.Ascending

theorem mem_insert {text t : String} {list : List String} :
    t ∈ insert text list ↔ t = text ∨ t ∈ list := by
  induction list with
  | nil => simp [insert]
  | cons head rest ih =>
    rw [insert]
    split
    · simp
    · split
      · rename_i _ hHead
        simp [hHead]
      · rw [List.mem_cons, ih, List.mem_cons, or_left_comm]

theorem pairwise_insert {text : String} {list : List String} (h : list.Pairwise (· < ·)) :
    (insert text list).Pairwise (· < ·) := by
  induction list with
  | nil => simp [insert]
  | cons head rest ih =>
    obtain ⟨hHead, hRest⟩ := List.pairwise_cons.mp h
    rw [insert]
    split
    · rename_i hLess
      refine List.pairwise_cons.mpr ⟨?_, h⟩
      intro t ht
      rcases List.mem_cons.mp ht with rfl | ht
      · exact hLess
      · exact lt_trans hLess (hHead t ht)
    · split
      · exact h
      · rename_i hLess hSame
        refine List.pairwise_cons.mpr ⟨?_, ih hRest⟩
        intro t ht
        rcases mem_insert.mp ht with rfl | ht
        · exact lt_of_le_of_ne (not_lt.mp hLess) (Ne.symm hSame)
        · exact hHead t ht

variable {α β : Type}

theorem lookup_cons {κ : Type} [BEq κ] [LawfulBEq κ] [DecidableEq κ] (head : κ) (v : α) (rest : List (κ × α))
    (k : κ) : List.lookup k ((head, v) :: rest) = if k = head then some v else rest.lookup k := by
  rw [List.lookup_cons]
  by_cases h : k = head
  · simp [h]
  · simp [h, beq_eq_false_iff_ne.mpr h]

theorem lookup_zip {κ : Type} [BEq κ] [LawfulBEq κ] [DecidableEq κ] {keys : List κ} {values : List α}
    (hKeys : keys.Nodup) {i : Nat} {k : κ} {v : α} (hKey : keys[i]? = some k) (hValue : values[i]? = some v) :
    (keys.zip values).lookup k = some v := by
  induction keys generalizing values i with
  | nil => cases hKey
  | cons head keys ih =>
    cases values with
    | nil => cases hValue
    | cons first values =>
      obtain ⟨hHead, hKeys⟩ := List.nodup_cons.mp hKeys
      rw [List.zip_cons_cons, lookup_cons]
      cases i with
      | zero =>
        cases hKey
        cases hValue
        rw [if_pos rfl]
      | succ i =>
        rw [List.getElem?_cons_succ] at hKey hValue
        have hNe : k ≠ head := fun h => hHead (h ▸ List.mem_of_getElem? hKey)
        rw [if_neg hNe]
        exact ih hKeys hKey hValue

theorem lookup_put (key : String) (value : α) (table : List (String × α)) (k : String) :
    (put key value table).lookup k = if k = key then some value else table.lookup k := by
  induction table with
  | nil => rw [put, lookup_cons]
  | cons entry rest ih =>
    obtain ⟨head, v⟩ := entry
    rw [put]
    split
    · rw [lookup_cons]
    · split
      · rename_i _ hHead
        rw [lookup_cons, lookup_cons, ← hHead]
        split <;> rfl
      · rename_i hHead
        rw [lookup_cons, lookup_cons, ih]
        split
        · rename_i hk
          rw [if_neg (fun h => hHead (h.symm.trans hk))]
        · rfl

theorem mem_put {key : String} {value : α} {table : List (String × α)} {entry : String × α}
    (h : entry ∈ put key value table) : entry = (key, value) ∨ entry ∈ table := by
  induction table with
  | nil => exact .inl (List.mem_singleton.mp h)
  | cons first rest ih =>
    rw [put] at h
    split at h
    · exact List.mem_cons.mp h
    · split at h
      · exact (List.mem_cons.mp h).imp_right (List.mem_cons_of_mem first)
      · rcases List.mem_cons.mp h with rfl | h
        · exact .inr List.mem_cons_self
        · exact (ih h).imp_right (List.mem_cons_of_mem first)

theorem pairwise_put {key : String} {value : α} {table : List (String × α)}
    (h : table.Pairwise fun a b => a.1 < b.1) : (put key value table).Pairwise fun a b => a.1 < b.1 := by
  induction table with
  | nil => exact List.pairwise_singleton _ _
  | cons first rest ih =>
    obtain ⟨hFirst, hRest⟩ := List.pairwise_cons.mp h
    rw [put]
    split
    · rename_i hLess
      refine List.pairwise_cons.mpr ⟨fun entry hEntry => ?_, h⟩
      rcases List.mem_cons.mp hEntry with rfl | hEntry
      · exact hLess
      · exact lt_trans hLess (hFirst entry hEntry)
    · split
      · rename_i hSame
        subst hSame
        exact List.pairwise_cons.mpr ⟨hFirst, hRest⟩
      · rename_i hLess hSame
        refine List.pairwise_cons.mpr ⟨fun entry hEntry => ?_, ih hRest⟩
        rcases mem_put hEntry with rfl | hEntry
        · exact lt_of_le_of_ne (not_lt.mp hLess) (Ne.symm hSame)
        · exact hFirst entry hEntry

theorem put_map (f : α → β) (key : String) (value : α) (table : List (String × α)) :
    (put key value table).map (fun entry => (entry.1, f entry.2)) =
      put key (f value) (table.map fun entry => (entry.1, f entry.2)) := by
  induction table with
  | nil => rfl
  | cons entry rest ih =>
    simp only [put, List.map_cons]
    split
    · rfl
    · split
      · rfl
      · rw [List.map_cons, ih]

theorem lookup_map (f : α → β) (table : List (String × α)) (k : String) :
    (table.map fun entry => (entry.1, f entry.2)).lookup k = (table.lookup k).map f := by
  induction table with
  | nil => rfl
  | cons entry rest ih =>
    obtain ⟨head, v⟩ := entry
    rw [List.map_cons, lookup_cons, lookup_cons, ih]
    split <;> rfl

/-- A table from which values are left out still has those that are kept. -/
theorem lookup_filterMap (f : α → Option β) {table : List (String × α)} (h : table.Pairwise fun a b => a.1 < b.1)
    (k : String) :
    (table.filterMap fun entry => (f entry.2).map fun v => (entry.1, v)).lookup k = (table.lookup k).bind f := by
  induction table with
  | nil => rfl
  | cons entry rest ih =>
    obtain ⟨head, v⟩ := entry
    obtain ⟨hHead, hRest⟩ := List.pairwise_cons.mp h
    rw [lookup_cons]
    by_cases hk : k = head
    · have hNone : rest.lookup k = none := by
        rw [List.lookup_eq_none_iff]
        exact fun entry hEntry => bne_iff_ne.mpr (hk ▸ ne_of_lt (hHead entry hEntry))
      have hLeft := ih hRest
      rw [hNone] at hLeft
      rw [if_pos hk, List.filterMap_cons]
      cases hf : f v with
      | none =>
        rw [Option.bind_some, hf]
        exact hLeft
      | some b =>
        rw [Option.bind_some, hf]
        exact (lookup_cons head b _ k).trans (if_pos hk)
    · rw [if_neg hk, List.filterMap_cons, ← ih hRest]
      cases f v with
      | none => rfl
      | some b => exact (lookup_cons head b _ k).trans (if_neg hk)

theorem lookup_change (key : String) (change : α → α) (table : List (String × α)) (k : String) :
    (table.map fun (k, v) => if k = key then (k, change v) else (k, v)).lookup k =
      if k = key then (table.lookup k).map change else table.lookup k := by
  induction table with
  | nil => split <;> rfl
  | cons entry rest ih =>
    obtain ⟨head, v⟩ := entry
    rw [List.map_cons, lookup_cons]
    by_cases hHead : head = key
    · simp only [if_pos hHead]
      rw [lookup_cons, ih]
      by_cases hk : k = head
      · simp [hk, hHead]
      · simp [hk]
    · simp only [if_neg hHead]
      rw [lookup_cons, ih]
      by_cases hk : k = head
      · simp [hk, hHead]
      · simp [hk]

theorem lookup_eq_some_iff {κ : Type} [BEq κ] [LawfulBEq κ] [DecidableEq κ] [Preorder κ] {table : List (κ × α)}
    (h : table.Pairwise fun a b => a.1 < b.1) {k : κ} {v : α} : table.lookup k = some v ↔ (k, v) ∈ table := by
  induction table with
  | nil => simp
  | cons first rest ih =>
    obtain ⟨head, w⟩ := first
    obtain ⟨hFirst, hRest⟩ := List.pairwise_cons.mp h
    rw [lookup_cons, List.mem_cons, Prod.mk.injEq]
    split
    · rename_i hSame
      subst hSame
      have hElse : (k, v) ∉ rest := fun hMem => lt_irrefl k (hFirst (k, v) hMem)
      simp [hElse, eq_comm]
    · rename_i hDiffer
      rw [ih hRest, or_iff_right fun h => hDiffer h.1]

theorem eq_of_lookup_eq {table other : List (String × α)} (h : table.Pairwise fun a b => a.1 < b.1)
    (hOther : other.Pairwise fun a b => a.1 < b.1) (hSame : ∀ k, table.lookup k = other.lookup k) :
    table = other := by
  have hNodup {list : List (String × α)} (h : list.Pairwise fun a b => a.1 < b.1) : list.Nodup :=
    h.imp fun {a b} hLess hEq => absurd (hEq ▸ hLess) (lt_irrefl _)
  have hPerm : table.Perm other := by
    refine (List.perm_ext_iff_of_nodup (hNodup h) (hNodup hOther)).mpr fun entry => ?_
    rw [← lookup_eq_some_iff h, ← lookup_eq_some_iff hOther, hSame]
  exact hPerm.eq_of_pairwise (fun a b _ _ hLess hGreater => absurd hGreater (lt_asymm hLess)) h hOther

theorem mem_keys_iff (table : List (String × α)) (k : String) :
    k ∈ table.map (·.1) ↔ (table.lookup k).isSome := by
  induction table with
  | nil => simp
  | cons entry rest ih =>
    obtain ⟨head, v⟩ := entry
    rw [List.map_cons, List.mem_cons, ih, lookup_cons]
    by_cases h : k = head <;> simp [h]

theorem lookup_zip_map (f : α → β) (names : List String) (values : List α) (name : String) :
    (names.zip (values.map f)).lookup name = ((names.zip values).lookup name).map f := by
  rw [List.zip_map_right, ← lookup_map]
  rfl

theorem isSome_lookup_zip {names : List String} {values : List α} (h : names.length = values.length)
    (name : String) : ((names.zip values).lookup name).isSome ↔ name ∈ names := by
  rw [← mem_keys_iff, List.map_fst_zip (Nat.le_of_eq h)]

theorem lookup_zip_eq_none {names : List String} {values : List α} (h : names.length = values.length) {name : String} :
    (names.zip values).lookup name = none ↔ name ∉ names := by
  rw [← isSome_lookup_zip h, Bool.not_eq_true, Option.isSome_eq_false_iff, Option.isNone_iff_eq_none]

section Step

variable {κ : Type} [LinearOrder κ]

/-- Two lists that ascend by one key are in step if each has for every member of the other a member that matches. -/
theorem forall₂_of_ascending {key : α → κ} {otherKey : β → κ} {r : α → β → Prop}
    (hKey : ∀ a b, r a b → key a = otherKey b) {list : List α} {other : List β}
    (hList : list.Pairwise fun a b => key a < key b) (hOther : other.Pairwise fun a b => otherKey a < otherKey b)
    (hLeft : ∀ a ∈ list, ∃ b ∈ other, r a b) (hRight : ∀ b ∈ other, ∃ a ∈ list, r a b) :
    List.Forall₂ r list other := by
  induction list generalizing other with
  | nil =>
    cases other with
    | nil => exact .nil
    | cons b others => exact absurd (hRight b List.mem_cons_self) (by simp)
  | cons a rest ih =>
    cases other with
    | nil => exact absurd (hLeft a List.mem_cons_self) (by simp)
    | cons b others =>
      obtain ⟨ha, hRest⟩ := List.pairwise_cons.mp hList
      obtain ⟨hb, hOthers⟩ := List.pairwise_cons.mp hOther
      have hLeast : ∀ x ∈ a :: rest, key a ≤ key x :=
        List.forall_mem_cons.mpr ⟨le_rfl, fun x hx => (ha x hx).le⟩
      have hOtherLeast : ∀ y ∈ b :: others, otherKey b ≤ otherKey y :=
        List.forall_mem_cons.mpr ⟨le_rfl, fun y hy => (hb y hy).le⟩
      -- What matches the least member of the other list is no less than the least member.
      obtain ⟨x, hx, hxb⟩ := hRight b List.mem_cons_self
      obtain ⟨y, hy, hay⟩ := hLeft a List.mem_cons_self
      have hHeads : key a = otherKey b :=
        le_antisymm ((hLeast x hx).trans_eq (hKey x b hxb)) ((hOtherLeast y hy).trans_eq (hKey a y hay).symm)
      have hMatch : r a b := by
        rcases List.mem_cons.mp hy with rfl | hy
        · exact hay
        · exact absurd (hKey a y hay) (hHeads ▸ (hb y hy).ne)
      refine .cons hMatch (ih hRest hOthers (fun x hx => ?_) fun y hy => ?_)
      · obtain ⟨y, hy, hxy⟩ := hLeft x (List.mem_cons_of_mem a hx)
        rcases List.mem_cons.mp hy with rfl | hy
        · exact absurd (hHeads.trans (hKey x y hxy).symm) (ha x hx).ne
        · exact ⟨y, hy, hxy⟩
      · obtain ⟨x, hx, hxy⟩ := hRight y (List.mem_cons_of_mem b hy)
        rcases List.mem_cons.mp hx with rfl | hx
        · exact absurd (hHeads.symm.trans (hKey x y hxy)) (hb y hy).ne
        · exact ⟨x, hx, hxy⟩

theorem eq_of_ascending {key : α → κ} {list other : List α} (hList : list.Pairwise fun a b => key a < key b)
    (hOther : other.Pairwise fun a b => key a < key b) (hMem : ∀ a, a ∈ list ↔ a ∈ other) : list = other := by
  have hAntisymm : Std.Antisymm fun a b : α => key a < key b := ⟨fun _ _ h hBack => absurd hBack (lt_asymm h)⟩
  have hIrrefl : Std.Irrefl fun a b : α => key a < key b := ⟨fun _ => lt_irrefl _⟩
  exact hList.eq_of_mem_iff hOther hMem

end Step

end RowFactory.Ascending
