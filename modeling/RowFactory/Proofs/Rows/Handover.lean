import RowFactory.Proofs.Rows.Traces

/-! # Which rows reach a persister

The main statement says from the calls alone which rows are handed over. One invariant relates the parts of
a traced context to the calls so far: whose row each key holds, which keys wait, and who is in the log.
-/

namespace RowFactory.Rows

variable {σ ρ : Type}

/-- The row that call `i` kept under the key reaches a persister: there was one at the time, or the row is
still there when the first one is set. -/
def Reaches (start : Option (Persister σ ρ)) (calls : List (Call σ ρ)) (key : String) (i : Nat) : Prop :=
  HasPersister start (calls.take i) ∨
    ∃ j call, calls[j]? = some call ∧ call.SetsPersister ∧ ¬ HasPersister start (calls.take j) ∧
      LastStore (calls.take j) key i

/-- What a traced context and the log of its persisters say about the calls so far. -/
structure Accounts (start : Option (Persister σ ρ)) (calls : List (Call σ ρ))
    (c : Context (Noted σ) (Traced ρ)) (log : List Handover) : Prop where
  persister : c.persister.isSome ↔ HasPersister start calls
  origin : ∀ key i, (c.row? key).map (·.origin) = some i ↔ LastStore calls key i
  ascending : c.pending.Pairwise (· < ·)
  pending : ∀ key, key ∈ c.pending ↔
    ¬ HasPersister start calls ∧ ∃ i, LastStore calls key i ∧ AssociatesAt calls key i
  handedOver : ∀ key i, ⟨key, i⟩ ∈ log ↔ AssociatesAt calls key i ∧ Reaches start calls key i
  nodup : (log.map (·.origin)).Nodup

variable {start : Option (Persister σ ρ)} {calls : List (Call σ ρ)} {call : Call σ ρ}
  {c : Context (Noted σ) (Traced ρ)} {log : List Handover}

/-- The rows that wait for a persister, in the order of their keys. -/
def waiting (c : Context (Noted σ) (Traced ρ)) : List Handover :=
  c.pending.filterMap fun key => (c.row? key).map fun row => ⟨key, row.origin⟩

theorem mem_waiting {key : String} {i : Nat} :
    ⟨key, i⟩ ∈ waiting c ↔ key ∈ c.pending ∧ (c.row? key).map (·.origin) = some i := by
  simp only [waiting, List.mem_filterMap, Option.map_eq_some_iff, Handover.mk.injEq]
  constructor
  · rintro ⟨k, hk, row, hRow, rfl, rfl⟩
    exact ⟨hk, row, hRow, rfl⟩
  · rintro ⟨hKey, row, hRow, rfl⟩
    exact ⟨key, hKey, row, hRow, rfl, rfl⟩

theorem setPersister_log (p : Persister σ ρ) (noted : Noted σ) :
    (c.setPersister p.traced noted).2.2 = noted.2 ++ waiting c :=
  Context.saveRows_log p c.pending c.rows noted

theorem setPersister_origin (p : Persister σ ρ) (noted : Noted σ) (key : String) :
    ((c.setPersister p.traced noted).1.row? key).map (·.origin) = (c.row? key).map (·.origin) :=
  Context.saveRows_origin p c.pending c.rows noted key

theorem HasPersister.mono {i : Nat} (h : HasPersister start (calls.take i)) : HasPersister start calls := by
  rcases h with h | ⟨call, hCall, hSets⟩
  · exact .inl h
  · exact .inr ⟨call, List.mem_of_mem_take hCall, hSets⟩

/-- A row that has been kept already reaches a persister by one more call only if the call sets the first
one. -/
theorem reaches_concat {key : String} {i : Nat} (hi : i < calls.length) :
    Reaches start (calls ++ [call]) key i ↔
      Reaches start calls key i ∨
        call.SetsPersister ∧ ¬ HasPersister start calls ∧ LastStore calls key i := by
  have hTake {j : Nat} (hj : j ≤ calls.length) : (calls ++ [call]).take j = calls.take j :=
    List.take_append_of_le_length hj
  rw [Reaches, Reaches, hTake (Nat.le_of_lt hi)]
  constructor
  · rintro (h | ⟨j, other, hOther, hSets, hFirst, hLast⟩)
    · exact .inl (.inl h)
    · rcases getElem?_concat.mp hOther with hOther | ⟨rfl, rfl⟩
      · rw [hTake (Nat.le_of_lt (lt_length_of_getElem? hOther))] at hFirst hLast
        exact .inl (.inr ⟨j, other, hOther, hSets, hFirst, hLast⟩)
      · rw [hTake (Nat.le_refl _), List.take_length] at hFirst hLast
        exact .inr ⟨hSets, hFirst, hLast⟩
  · rintro ((h | ⟨j, other, hOther, hSets, hFirst, hLast⟩) | ⟨hSets, hFirst, hLast⟩)
    · exact .inl h
    · refine .inr ⟨j, other, getElem?_concat.mpr (.inl hOther), hSets, ?_, ?_⟩
      all_goals rw [hTake (Nat.le_of_lt (lt_length_of_getElem? hOther))]
      · exact hFirst
      · exact hLast
    · refine .inr ⟨calls.length, call, getElem?_concat.mpr (.inr ⟨rfl, rfl⟩), hSets, ?_, ?_⟩
      all_goals rw [hTake (Nat.le_refl _), List.take_length]
      · exact hFirst
      · exact hLast

theorem reaches_last {key : String} :
    Reaches start (calls ++ [call]) key calls.length ↔ HasPersister start calls := by
  rw [Reaches, List.take_append_of_le_length (Nat.le_refl _), List.take_length]
  constructor
  · rintro (h | ⟨j, other, hOther, _, _, hLast⟩)
    · exact h
    · have hj := lt_length_of_getElem? hOther
      have hLength := hLast.lt_length
      simp only [List.length_append, List.length_singleton, List.length_take] at hj hLength
      omega
  · exact .inl

theorem associated_reaches_concat {key : String} {i : Nat} :
    AssociatesAt (calls ++ [call]) key i ∧ Reaches start (calls ++ [call]) key i ↔
      AssociatesAt calls key i ∧ Reaches start calls key i ∨
        i = calls.length ∧ call.Associates key ∧ HasPersister start calls ∨
        call.SetsPersister ∧ ¬ HasPersister start calls ∧ LastStore calls key i ∧
          AssociatesAt calls key i := by
  rw [associatesAt_concat]
  constructor
  · rintro ⟨hAt | ⟨rfl, hAt⟩, hReaches⟩
    · rcases (reaches_concat hAt.lt_length).mp hReaches with h | ⟨hSets, hNone, hLast⟩
      · exact .inl ⟨hAt, h⟩
      · exact .inr (.inr ⟨hSets, hNone, hLast, hAt⟩)
    · exact .inr (.inl ⟨rfl, hAt, reaches_last.mp hReaches⟩)
  · rintro (⟨hAt, hReaches⟩ | ⟨rfl, hAt, hSome⟩ | ⟨hSets, hNone, hLast, hAt⟩)
    · exact ⟨.inl hAt, (reaches_concat hAt.lt_length).mpr (.inl hReaches)⟩
    · exact ⟨.inr ⟨rfl, hAt⟩, reaches_last.mpr hSome⟩
    · exact ⟨.inl hAt, (reaches_concat hAt.lt_length).mpr (.inr ⟨hSets, hNone, hLast⟩)⟩

theorem Accounts.log_eq_nil (h : Accounts start calls c log) (hNone : ¬ HasPersister start calls) :
    log = [] := by
  apply List.eq_nil_iff_forall_not_mem.mpr
  intro handover hMem
  obtain ⟨_, hReaches⟩ := (h.handedOver handover.key handover.origin).mp hMem
  rcases hReaches with hReaches | ⟨j, other, hOther, hSets, _⟩
  · exact hNone hReaches.mono
  · exact hNone (.inr ⟨other, List.mem_of_getElem? hOther, hSets⟩)

theorem Accounts.origin_lt (h : Accounts start calls c log) {i : Nat} (hi : i ∈ log.map (·.origin)) :
    i < calls.length := by
  obtain ⟨handover, hMem, rfl⟩ := List.mem_map.mp hi
  exact ((h.handedOver handover.key handover.origin).mp hMem).1.lt_length

theorem Accounts.pending_eq_nil (h : Accounts start calls c log) (hSome : HasPersister start calls) :
    c.pending = [] := by
  apply List.eq_nil_iff_forall_not_mem.mpr
  intro key hKey
  exact ((h.pending key).mp hKey).1 hSome

theorem Accounts.row?_of_mem_pending (h : Accounts start calls c log) {key : String}
    (hKey : key ∈ c.pending) : ∃ row, c.row? key = some row := by
  obtain ⟨_, i, hLast, _⟩ := (h.pending key).mp hKey
  obtain ⟨row, hRow, _⟩ := Option.map_eq_some_iff.mp ((h.origin key i).mpr hLast)
  exact ⟨row, hRow⟩

theorem Accounts.register (h : Accounts start calls c log) (key : String) (row : ρ) :
    Accounts start (calls ++ [.register key row]) (c.register key ⟨calls.length, row⟩) log where
  persister := h.persister.trans (by simp [hasPersister_concat, Call.SetsPersister])
  origin k i := by
    rw [Context.row?_register, lastStore_concat, ← h.origin]
    by_cases hk : k = key
    · simp [hk, Call.Stores, eq_comm]
    · simp [hk, Call.Stores, Ne.symm hk]
  ascending := h.ascending.filter _
  pending k := by
    rw [Context.mem_pending_register, h.pending, hasPersister_concat]
    constructor
    · rintro ⟨⟨hNone, i, hLast, hAt⟩, hk⟩
      refine ⟨by simpa [Call.SetsPersister] using hNone, i, ?_, associatesAt_concat.mpr (.inl hAt)⟩
      exact lastStore_concat.mpr (.inr ⟨Ne.symm hk, hLast⟩)
    · rintro ⟨hNone, i, hLast, hAt⟩
      have hAt : AssociatesAt calls k i := by simpa [associatesAt_concat, Call.Associates] using hAt
      rcases lastStore_concat.mp hLast with ⟨_, rfl⟩ | ⟨hk, hLast⟩
      · exact absurd hAt.lt_length (Nat.lt_irrefl _)
      · exact ⟨⟨fun hSome => hNone (.inl hSome), i, hLast, hAt⟩, Ne.symm hk⟩
  handedOver k i := by
    rw [h.handedOver, associated_reaches_concat]
    simp [Call.Associates, Call.SetsPersister]
  nodup := h.nodup

theorem Accounts.associate_waiting (h : Accounts start calls c log) (hNone : c.persister = none)
    (key : String) (build : StateM σ ρ) (row : ρ) :
    Accounts start (calls ++ [.associate key build])
      { c.register key ⟨calls.length, row⟩ with
        pending := Ascending.insert key (c.register key ⟨calls.length, row⟩).pending } log := by
  have hNone : ¬ HasPersister start calls := by simp [← h.persister, hNone]
  refine ⟨?_, ?_, ?_, ?_, ?_, h.nodup⟩
  · exact h.persister.trans (by simp [hasPersister_concat, Call.SetsPersister])
  · intro k i
    refine Iff.trans ?_ (((h.register key row).origin k i).trans ?_)
    · rfl
    · simp [lastStore_concat, Call.Stores]
  · exact Ascending.pairwise_insert (h.ascending.filter _)
  · intro k
    rw [Ascending.mem_insert, Context.mem_pending_register, h.pending, hasPersister_concat]
    constructor
    · rintro (rfl | ⟨⟨_, i, hLast, hAt⟩, hk⟩)
      · exact ⟨by simp [hNone, Call.SetsPersister], calls.length,
          lastStore_concat.mpr (.inl ⟨rfl, rfl⟩), associatesAt_concat.mpr (.inr ⟨rfl, rfl⟩)⟩
      · exact ⟨by simp [hNone, Call.SetsPersister], i,
          lastStore_concat.mpr (.inr ⟨Ne.symm hk, hLast⟩), associatesAt_concat.mpr (.inl hAt)⟩
    · rintro ⟨_, i, hLast, hAt⟩
      rcases lastStore_concat.mp hLast with ⟨hk, _⟩ | ⟨hk, hLast⟩
      · exact .inl (Eq.symm hk)
      · rcases associatesAt_concat.mp hAt with hAt | ⟨rfl, _⟩
        · exact .inr ⟨⟨hNone, i, hLast, hAt⟩, Ne.symm hk⟩
        · exact absurd hLast.lt_length (Nat.lt_irrefl _)
  · intro k i
    rw [h.handedOver, associated_reaches_concat]
    simp [Call.SetsPersister, hNone]

theorem Accounts.associate_saved (h : Accounts start calls c log) (hSome : c.persister.isSome)
    (key : String) (build : StateM σ ρ) (row : ρ) :
    Accounts start (calls ++ [.associate key build]) (c.register key ⟨calls.length, row⟩)
      (log ++ [⟨key, calls.length⟩]) := by
  have hSome := h.persister.mp hSome
  have hRegister := h.register key row
  refine ⟨?_, ?_, hRegister.ascending, ?_, ?_, ?_⟩
  · exact h.persister.trans (by simp [hasPersister_concat, Call.SetsPersister])
  · intro k i
    exact (hRegister.origin k i).trans (by simp [lastStore_concat, Call.Stores])
  · intro k
    have hEmpty := hRegister.pending_eq_nil (hasPersister_concat.mpr (.inl hSome))
    simp [hEmpty, hasPersister_concat, hSome]
  · intro k i
    rw [List.mem_append, h.handedOver, associated_reaches_concat]
    simp [Call.Associates, Call.SetsPersister, hSome, and_comm, eq_comm]
  · rw [List.map_append, List.nodup_append]
    refine ⟨h.nodup, by simp, ?_⟩
    rintro i hi j hj rfl
    have hLt := h.origin_lt hi
    simp only [List.map_cons, List.map_nil, List.mem_singleton] at hj
    omega

theorem Accounts.update (h : Accounts start calls c log) (key : String) (change : ρ → ρ) :
    Accounts start (calls ++ [.update key change])
      (c.update key fun row => { row with row := change row.row }) log where
  persister := h.persister.trans (by simp [hasPersister_concat, Call.SetsPersister])
  origin k i := by
    rw [Context.row?_update, lastStore_concat, ← h.origin]
    split
    · cases c.row? k <;> simp [Call.Stores]
    · simp [Call.Stores]
  ascending := h.ascending
  pending k := by
    refine (h.pending k).trans ?_
    simp [hasPersister_concat, Call.SetsPersister, lastStore_concat, Call.Stores, associatesAt_concat,
      Call.Associates]
  handedOver k i := by
    rw [h.handedOver, associated_reaches_concat]
    simp [Call.Associates, Call.SetsPersister]
  nodup := h.nodup

theorem Accounts.map_key_waiting (h : Accounts start calls c log) :
    (waiting c).map (·.key) = c.pending := by
  rw [waiting, List.map_filterMap]
  refine (List.filterMap_congr ?_).trans List.filterMap_some
  intro key hKey
  obtain ⟨row, hRow⟩ := h.row?_of_mem_pending hKey
  rw [hRow]
  rfl

theorem Accounts.mem_waiting_iff (h : Accounts start calls c log) (hNone : ¬ HasPersister start calls)
    {key : String} {i : Nat} :
    ⟨key, i⟩ ∈ waiting c ↔ LastStore calls key i ∧ AssociatesAt calls key i := by
  rw [mem_waiting, h.origin, h.pending]
  constructor
  · rintro ⟨⟨_, j, hLast, hAt⟩, hLast'⟩
    have hSame : j = i := by
      have hOrigin := (h.origin key j).mpr hLast
      rw [(h.origin key i).mpr hLast'] at hOrigin
      exact (Option.some.inj hOrigin).symm
    exact ⟨hLast', hSame ▸ hAt⟩
  · rintro ⟨hLast, hAt⟩
    exact ⟨⟨hNone, i, hLast, hAt⟩, hLast⟩

theorem Accounts.nodup_waiting (h : Accounts start calls c log) (hNone : ¬ HasPersister start calls) :
    ((waiting c).map (·.origin)).Nodup := by
  have hKeys : (waiting c).Pairwise fun a b => a.key < b.key := by
    have hAscending := h.ascending
    rwa [← h.map_key_waiting, List.pairwise_map] at hAscending
  rw [List.nodup_iff_pairwise_ne, List.pairwise_map]
  apply hKeys.imp_of_mem
  intro a b ha hb hLess hSame
  have hA := ((h.mem_waiting_iff hNone).mp ha).2
  have hB := ((h.mem_waiting_iff hNone).mp hb).2
  rw [hSame] at hA
  exact absurd (hA.key_eq hB) (ne_of_lt hLess)

theorem Accounts.setPersister (h : Accounts start calls c log) (p : Persister σ ρ) (world : σ) :
    Accounts start (calls ++ [.setPersister p]) (c.setPersister p.traced (world, log)).1
      (log ++ waiting c) := by
  refine ⟨?_, ?_, List.Pairwise.nil, ?_, ?_, ?_⟩
  · simp [hasPersister_concat, Call.SetsPersister, Context.setPersister_apply]
  · intro k i
    rw [setPersister_origin, h.origin, lastStore_concat]
    simp [Call.Stores]
  · intro k
    simp [hasPersister_concat, Call.SetsPersister, Context.setPersister_apply]
  · intro k i
    rw [List.mem_append, h.handedOver, associated_reaches_concat]
    apply or_congr_right
    by_cases hSome : HasPersister start calls
    · have hEmpty := h.pending_eq_nil hSome
      simp [waiting, hEmpty, hSome, Call.Associates]
    · rw [h.mem_waiting_iff hSome]
      simp [hSome, Call.SetsPersister]
  · by_cases hSome : HasPersister start calls
    · simpa [waiting, h.pending_eq_nil hSome] using h.nodup
    · simpa [h.log_eq_nil hSome] using h.nodup_waiting hSome

theorem accounts_perform (h : Accounts start calls c log) {plain : Context σ ρ} (hPlain : c.Forgets plain)
    (call : Call σ ρ) (world : σ) :
    Accounts start (calls ++ [call]) ((call.traced calls.length).perform c (world, log)).1
      ((call.traced calls.length).perform c (world, log)).2.2 := by
  cases call with
  | register key row => exact h.register key row
  | update key change => exact h.update key change
  | setPersister p =>
    change Accounts start _ (c.setPersister p.traced (world, log)).1
      (c.setPersister p.traced (world, log)).2.2
    rw [setPersister_log]
    exact h.setPersister p world
  | associate key build =>
    change Accounts start _ (c.associate key ⟨calls.length, (build world).1⟩ ((build world).2, log)).1
      (c.associate key ⟨calls.length, (build world).1⟩ ((build world).2, log)).2.2
    rw [Context.associate, hPlain.persister]
    cases hPersister : plain.persister with
    | none =>
      exact h.associate_waiting (by rw [hPlain.persister, hPersister]; rfl) key build _
    | some p =>
      exact h.associate_saved (by rw [hPlain.persister, hPersister]; rfl) key build _

theorem accounts_start (start : Option (Persister σ ρ)) (world : σ) :
    Accounts start [] (tracedRun start [] (world, [])).1 (tracedRun start [] (world, [])).2.2 := by
  have hEmpty (c : Context (Noted σ) (Traced ρ)) (hPersister : c.persister.isSome ↔ start.isSome)
      (hRows : c.rows = []) (hPending : c.pending = []) :
      Accounts start [] c [] := by
    refine ⟨hPersister.trans hasPersister_nil.symm, ?_, by simp [hPending], ?_, ?_, by simp⟩
    · intro key i
      simp [Context.row?, hRows, LastStore]
    · intro key
      simp [hPending, LastStore]
    · intro key i
      simp [AssociatesAt]
  cases start with
  | none => exact hEmpty _ Iff.rfl rfl rfl
  | some p => exact hEmpty _ ⟨fun _ => rfl, fun _ => rfl⟩ rfl rfl

theorem accounts_run (start : Option (Persister σ ρ)) (calls : List (Call σ ρ)) (world : σ) :
    Accounts start calls (tracedRun start calls (world, [])).1 (tracedRun start calls (world, [])).2.2 := by
  induction calls using List.reverseRecOn with
  | nil => exact accounts_start start world
  | append_singleton calls call ih =>
    rw [tracedRun_concat]
    exact accounts_perform ih (tracedRun_forgets start calls world).1 call _

theorem Accounts.mem_origins_iff (h : Accounts start calls c log) {i : Nat} (hCall : calls[i]? = some call) :
    i ∈ log.map (·.origin) ↔ ∃ key, call.Associates key ∧ Reaches start calls key i := by
  constructor
  · intro hMem
    obtain ⟨⟨key, origin⟩, hHanded, rfl⟩ := List.mem_map.mp hMem
    obtain ⟨⟨other, hOther, hAt⟩, hReaches⟩ := (h.handedOver key origin).mp hHanded
    rw [hCall] at hOther
    cases hOther
    exact ⟨key, hAt, hReaches⟩
  · rintro ⟨key, hAt, hReaches⟩
    exact List.mem_map.mpr ⟨⟨key, i⟩, (h.handedOver key i).mpr ⟨⟨call, hCall, hAt⟩, hReaches⟩, rfl⟩

theorem Accounts.count_le_one (h : Accounts start calls c log) (i : Nat) :
    (log.map (·.origin)).count i ≤ 1 := List.nodup_iff_count.mp h.nodup i

theorem Accounts.count_eq_one_iff (h : Accounts start calls c log) (i : Nat) :
    (log.map (·.origin)).count i = 1 ↔ i ∈ log.map (·.origin) := by
  rw [← List.count_pos_iff]
  have hLe := h.count_le_one i
  omega

theorem Accounts.count_register (h : Accounts start calls c log) {i : Nat} {key : String} {row : ρ}
    (hCall : calls[i]? = some (.register key row)) : (log.map (·.origin)).count i = 0 := by
  rw [List.count_eq_zero, h.mem_origins_iff hCall]
  rintro ⟨_, hAt, _⟩
  exact hAt

theorem Accounts.count_associate (h : Accounts start calls c log) {i : Nat} {key : String}
    {build : StateM σ ρ} (hCall : calls[i]? = some (.associate key build)) :
    (log.map (·.origin)).count i = 1 ↔ Reaches start calls key i := by
  rw [h.count_eq_one_iff, h.mem_origins_iff hCall]
  constructor
  · rintro ⟨_, rfl, hReaches⟩
    exact hReaches
  · intro hReaches
    exact ⟨key, rfl, hReaches⟩

theorem Accounts.mem_keys_of_mem_pending (h : Accounts start calls c log) {plain : Context σ ρ}
    (hPlain : c.Forgets plain) {key : String} (hKey : key ∈ plain.pending) : key ∈ plain.keys := by
  rw [← hPlain.pending] at hKey
  obtain ⟨row, hRow⟩ := h.row?_of_mem_pending hKey
  rw [Context.keys, ← hPlain.rows, Ascending.mem_keys_iff, lookup_plainRows]
  exact Option.isSome_map.trans (Option.isSome_of_eq_some hRow)

theorem Accounts.pending_eq_nil_of_hasPersister (h : Accounts start calls c log) {plain : Context σ ρ}
    (hPlain : c.Forgets plain) (hSome : plain.hasPersister) : plain.pending = [] := by
  rw [← hPlain.pending]
  apply h.pending_eq_nil
  rw [← h.persister, hPlain.persister, Option.isSome_map]
  exact hSome

/-- In every run, whatever the persisters do: a registered row is never handed over; a row that was built
for the context is handed over once if it reaches a persister by the calls alone, and never otherwise; only
stored rows wait, and none while there is a persister; and a new persister is given those that wait in the
order of their keys. -/
theorem handed_over_once (start : Option (Persister σ ρ)) (calls : List (Call σ ρ)) (world : σ) :
    let c := (run start calls world).1
    let traced := tracedRun start calls (world, [])
    let log := traced.2.2
    (traced.1.Forgets c ∧ traced.2.1 = (run start calls world).2) ∧
      (∀ i key row, calls[i]? = some (.register key row) → (log.map (·.origin)).count i = 0) ∧
      (∀ i key build, calls[i]? = some (.associate key build) →
        (log.map (·.origin)).count i ≤ 1 ∧
          ((log.map (·.origin)).count i = 1 ↔ Reaches start calls key i)) ∧
      (∀ handover ∈ log, AssociatesAt calls handover.key handover.origin) ∧
      ((∀ key ∈ c.pending, key ∈ c.keys) ∧ (c.hasPersister → c.pending = [])) ∧
      ∀ p, ∃ handed, (tracedRun start (calls ++ [.setPersister p]) (world, [])).2.2 = log ++ handed ∧
        handed.map (·.key) = c.pending ∧ c.pending.Pairwise (· < ·) ∧
        ∀ handover ∈ handed, (traced.1.row? handover.key).map (·.origin) = some handover.origin := by
  intro c traced log
  have hForgets := tracedRun_forgets start calls world
  have h : Accounts start calls traced.1 log := accounts_run start calls world
  refine ⟨hForgets, ?_, ?_, ?_, ⟨?_, ?_⟩, ?_⟩
  · intro i key row hCall
    exact h.count_register hCall
  · intro i key build hCall
    exact ⟨h.count_le_one i, h.count_associate hCall⟩
  · intro handover hMem
    exact ((h.handedOver handover.key handover.origin).mp hMem).1
  · intro key hKey
    exact h.mem_keys_of_mem_pending hForgets.1 hKey
  · intro hSome
    exact h.pending_eq_nil_of_hasPersister hForgets.1 hSome
  · intro p
    refine ⟨waiting traced.1, ?_, ?_, ?_, ?_⟩
    · rw [tracedRun_concat]
      exact setPersister_log p _
    · exact h.map_key_waiting.trans hForgets.1.pending
    · exact hForgets.1.pending ▸ h.ascending
    · intro handover hMem
      exact (mem_waiting.mp hMem).2

end RowFactory.Rows
