import RowFactory.Proofs.Ascending
import RowFactory.Rows.Context

/-! # Runs of a context

What may be done to a context, in any order and any number of times. The row of an association is built
when the call is made, and building it may change the world as well.
-/

namespace RowFactory.Rows

variable {σ ρ : Type}

inductive Call (σ ρ : Type) where
  | register (key : String) (row : ρ)
  | associate (key : String) (build : StateM σ ρ)
  | setPersister (p : Persister σ ρ)
  | update (key : String) (change : ρ → ρ)

namespace Call

def perform (c : Context σ ρ) : Call σ ρ → StateM σ (Context σ ρ)
  | .register key row => pure (c.register key row)
  | .associate key build => do c.associate key (← build)
  | .setPersister p => c.setPersister p
  | .update key change => pure (c.update key change)

def Stores (key : String) : Call σ ρ → Prop
  | .register k _ | .associate k _ => k = key
  | .setPersister _ | .update _ _ => False

def Associates (key : String) : Call σ ρ → Prop
  | .associate k _ => k = key
  | .register _ _ | .setPersister _ | .update _ _ => False

def SetsPersister : Call σ ρ → Prop
  | .setPersister _ => True
  | .register _ _ | .associate _ _ | .update _ _ => False

end Call

/-- A new context, which may have a persister from the beginning. -/
def Context.start : Option (Persister σ ρ) → StateM σ (Context σ ρ)
  | none => pure {}
  | some p => Context.ofPersister p

def run (start : Option (Persister σ ρ)) (calls : List (Call σ ρ)) : StateM σ (Context σ ρ) := do
  calls.foldlM Call.perform (← Context.start start)

theorem run_concat (start : Option (Persister σ ρ)) (calls : List (Call σ ρ)) (call : Call σ ρ)
    (world : σ) :
    run start (calls ++ [call]) world = call.perform (run start calls world).1 (run start calls world).2 := by
  have h : run start (calls ++ [call]) = run start calls >>= fun c => call.perform c := by
    simp [run, List.foldlM_append]
  rw [h]
  rfl

namespace Context

theorem row?_register (c : Context σ ρ) (key : String) (row : ρ) (k : String) :
    (c.register key row).row? k = if k = key then some row else c.row? k :=
  Ascending.lookup_put key row c.rows k

/-- A row that was made for a key is kept under it, and every other key keeps its row. -/
theorem row?_associate {c after : Context σ ρ} {key : String} {row : ρ} {world last : σ}
    (h : (c.associate key row).run world = (after, last)) :
    (after.row? key).isSome ∧ ∀ k, k ≠ key → after.row? k = c.row? k := by
  have hRegister : ∃ kept, ∀ k, after.row? k = if k = key then some kept else c.row? k := by
    rw [associate] at h
    cases hPersister : c.persister with
    | none =>
      rw [hPersister] at h
      cases h
      exact ⟨row, row?_register c key row⟩
    | some p =>
      rw [hPersister] at h
      cases h
      exact ⟨_, row?_register c key _⟩
  obtain ⟨kept, hKept⟩ := hRegister
  refine ⟨?_, fun k hOther => ?_⟩
  · rw [hKept, if_pos rfl, Option.isSome_some]
  · rw [hKept, if_neg hOther]

theorem row?_update (c : Context σ ρ) (key : String) (change : ρ → ρ) (k : String) :
    (c.update key change).row? k = if k = key then (c.row? k).map change else c.row? k :=
  Ascending.lookup_change key change c.rows k

theorem setPersister_apply (c : Context σ ρ) (p : Persister σ ρ) (world : σ) :
    c.setPersister p world =
      ({ rows := (saveRows p c.pending c.rows world).1, persister := some p, pending := [] },
        (saveRows p c.pending c.rows world).2) := rfl

theorem mem_pending_register (c : Context σ ρ) (key : String) (row : ρ) (k : String) :
    k ∈ (c.register key row).pending ↔ k ∈ c.pending ∧ k ≠ key := by
  simp [register]

end Context

def HasPersister (start : Option (Persister σ ρ)) (calls : List (Call σ ρ)) : Prop :=
  start.isSome ∨ ∃ call ∈ calls, call.SetsPersister

/-- Call `i` is the last one that keeps a row under the key. -/
def LastStore (calls : List (Call σ ρ)) (key : String) (i : Nat) : Prop :=
  ∃ call, calls[i]? = some call ∧ call.Stores key ∧
    ∀ j later, i < j → calls[j]? = some later → ¬ later.Stores key

/-- Call `i` keeps a row that was built for the context under the key. -/
def AssociatesAt (calls : List (Call σ ρ)) (key : String) (i : Nat) : Prop :=
  ∃ call, calls[i]? = some call ∧ call.Associates key

variable {start : Option (Persister σ ρ)} {calls : List (Call σ ρ)} {call : Call σ ρ}

theorem getElem?_concat {i : Nat} {other : Call σ ρ} :
    (calls ++ [call])[i]? = some other ↔ calls[i]? = some other ∨ i = calls.length ∧ other = call := by
  rcases Nat.lt_trichotomy i calls.length with h | h | h
  · rw [List.getElem?_append_left h]
    simp [Nat.ne_of_lt h]
  · subst h
    simp [eq_comm]
  · rw [List.getElem?_eq_none (by simpa using Nat.succ_le_of_lt h), List.getElem?_eq_none (Nat.le_of_lt h)]
    simp [Nat.ne_of_gt h]

theorem lt_length_of_getElem? {i : Nat} (h : calls[i]? = some call) : i < calls.length :=
  (List.getElem?_eq_some_iff.mp h).1

theorem hasPersister_nil : HasPersister start [] ↔ start.isSome := by simp [HasPersister]

theorem hasPersister_concat :
    HasPersister start (calls ++ [call]) ↔ HasPersister start calls ∨ call.SetsPersister := by
  simp only [HasPersister, List.mem_append, List.mem_singleton, or_assoc]
  constructor
  · rintro (h | ⟨other, h | rfl, hSets⟩)
    · exact .inl h
    · exact .inr (.inl ⟨other, h, hSets⟩)
    · exact .inr (.inr hSets)
  · rintro (h | ⟨other, h, hSets⟩ | hSets)
    · exact .inl h
    · exact .inr ⟨other, .inl h, hSets⟩
    · exact .inr ⟨call, .inr rfl, hSets⟩

theorem LastStore.lt_length {key : String} {i : Nat} (h : LastStore calls key i) : i < calls.length := by
  obtain ⟨call, hCall, _⟩ := h
  exact lt_length_of_getElem? hCall

theorem lastStore_concat {key : String} {i : Nat} :
    LastStore (calls ++ [call]) key i ↔
      call.Stores key ∧ i = calls.length ∨ ¬ call.Stores key ∧ LastStore calls key i := by
  constructor
  · rintro ⟨other, hOther, hStores, hLast⟩
    rcases getElem?_concat.mp hOther with hOther | ⟨rfl, rfl⟩
    · refine .inr ⟨?_, other, hOther, hStores, ?_⟩
      · exact hLast calls.length call (lt_length_of_getElem? hOther) (getElem?_concat.mpr (.inr ⟨rfl, rfl⟩))
      · intro j later hij hLater
        exact hLast j later hij (getElem?_concat.mpr (.inl hLater))
    · exact .inl ⟨hStores, rfl⟩
  · rintro (⟨hStores, rfl⟩ | ⟨hStores, other, hOther, hOther', hLast⟩)
    · refine ⟨call, getElem?_concat.mpr (.inr ⟨rfl, rfl⟩), hStores, ?_⟩
      intro j later hj hLater
      have hLater := lt_length_of_getElem? hLater
      simp only [List.length_append, List.length_singleton] at hLater
      omega
    · refine ⟨other, getElem?_concat.mpr (.inl hOther), hOther', ?_⟩
      intro j later hij hLater
      rcases getElem?_concat.mp hLater with hLater | ⟨_, rfl⟩
      · exact hLast j later hij hLater
      · exact hStores

theorem associatesAt_concat {key : String} {i : Nat} :
    AssociatesAt (calls ++ [call]) key i ↔
      AssociatesAt calls key i ∨ i = calls.length ∧ call.Associates key := by
  constructor
  · rintro ⟨other, hOther, h⟩
    rcases getElem?_concat.mp hOther with hOther | ⟨rfl, rfl⟩
    · exact .inl ⟨other, hOther, h⟩
    · exact .inr ⟨rfl, h⟩
  · rintro (⟨other, hOther, h⟩ | ⟨rfl, h⟩)
    · exact ⟨other, getElem?_concat.mpr (.inl hOther), h⟩
    · exact ⟨call, getElem?_concat.mpr (.inr ⟨rfl, rfl⟩), h⟩

theorem AssociatesAt.lt_length {key : String} {i : Nat} (h : AssociatesAt calls key i) : i < calls.length := by
  obtain ⟨call, hCall, _⟩ := h
  exact lt_length_of_getElem? hCall

theorem AssociatesAt.key_eq {key other : String} {i : Nat} (h : AssociatesAt calls key i)
    (h' : AssociatesAt calls other i) : key = other := by
  obtain ⟨call, hCall, h⟩ := h
  obtain ⟨call', hCall', h'⟩ := h'
  rw [hCall] at hCall'
  cases hCall'
  cases call with
  | associate k build => exact h.symm.trans h'
  | register _ _ | setPersister _ | update _ _ => exact h.elim

end RowFactory.Rows
