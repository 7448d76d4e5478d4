import Mathlib.Data.List.Induction
import RowFactory.Proofs.Rows.Calls

/-! # Traced runs

Rows have no identity of their own. In a traced run every row carries the position of the call that kept
it, and every persister notes the rows that it is given. With the traces left out, a traced run is the run
itself, whatever its persisters do.
-/

namespace RowFactory.Rows

variable {σ ρ : Type}

/-- A row and the position of the call that kept it. -/
structure Traced (ρ : Type) where
  origin : Nat
  row : ρ

structure Handover where
  key : String
  origin : Nat
  deriving DecidableEq, Repr

/-- The world of a traced run. -/
abbrev Noted (σ : Type) := σ × List Handover

def Persister.traced (p : Persister σ ρ) : Persister (Noted σ) (Traced ρ) := fun key row => do
  let (world, log) ← get
  let (saved, world) := (p key row.row).run world
  set (world, log ++ [⟨key, row.origin⟩])
  return { row with row := saved }

def Call.traced (number : Nat) : Call σ ρ → Call (Noted σ) (Traced ρ)
  | .register key row => .register key ⟨number, row⟩
  | .associate key build =>
    .associate key do
      let (world, log) ← get
      let (row, world) := build.run world
      set (world, log)
      return ⟨number, row⟩
  | .setPersister p => .setPersister p.traced
  | .update key change => .update key fun row => { row with row := change row.row }

def tracedRun (start : Option (Persister σ ρ)) (calls : List (Call σ ρ)) :
    StateM (Noted σ) (Context (Noted σ) (Traced ρ)) :=
  run (start.map Persister.traced) (calls.mapIdx Call.traced)

def plainRows (rows : List (String × Traced ρ)) : List (String × ρ) :=
  rows.map fun entry => (entry.1, entry.2.row)

structure Context.Forgets (traced : Context (Noted σ) (Traced ρ)) (c : Context σ ρ) : Prop where
  rows : plainRows traced.rows = c.rows
  persister : traced.persister = c.persister.map Persister.traced
  pending : traced.pending = c.pending

theorem tracedRun_concat (start : Option (Persister σ ρ)) (calls : List (Call σ ρ)) (call : Call σ ρ)
    (noted : Noted σ) :
    tracedRun start (calls ++ [call]) noted =
      (call.traced calls.length).perform (tracedRun start calls noted).1 (tracedRun start calls noted).2 := by
  rw [tracedRun, List.mapIdx_concat, run_concat]
  rfl

theorem lookup_plainRows (rows : List (String × Traced ρ)) (key : String) :
    (plainRows rows).lookup key = (rows.lookup key).map Traced.row :=
  Ascending.lookup_map Traced.row rows key

theorem plainRows_put (key : String) (row : Traced ρ) (rows : List (String × Traced ρ)) :
    plainRows (Ascending.put key row rows) = Ascending.put key row.row (plainRows rows) :=
  Ascending.put_map Traced.row key row rows

namespace Context

theorem saveRow_traced (p : Persister σ ρ) (key : String) (rows : List (String × Traced ρ))
    (noted : Noted σ) :
    saveRow p key (plainRows rows) noted.1 =
      (plainRows (saveRow p.traced key rows noted).1, (saveRow p.traced key rows noted).2.1) := by
  rw [saveRow, saveRow, lookup_plainRows]
  cases rows.lookup key with
  | none => rfl
  | some row =>
    have h := plainRows_put key (p.traced key row noted).1 rows
    exact congrArg (·, (p key row.row noted.1).2) h.symm

theorem saveRows_traced (p : Persister σ ρ) (keys : List String) (rows : List (String × Traced ρ))
    (noted : Noted σ) :
    saveRows p keys (plainRows rows) noted.1 =
      (plainRows (saveRows p.traced keys rows noted).1, (saveRows p.traced keys rows noted).2.1) := by
  induction keys generalizing rows noted with
  | nil => rfl
  | cons key keys ih =>
    change saveRows p keys (saveRow p key _ noted.1).1 (saveRow p key _ noted.1).2 = _
    rw [saveRow_traced]
    exact ih (saveRow p.traced key rows noted).1 (saveRow p.traced key rows noted).2

theorem saveRow_origin (p : Persister σ ρ) (key : String) (rows : List (String × Traced ρ))
    (noted : Noted σ) (k : String) :
    ((saveRow p.traced key rows noted).1.lookup k).map (·.origin) = (rows.lookup k).map (·.origin) := by
  rw [saveRow]
  cases hRow : rows.lookup key with
  | none => rfl
  | some row =>
    change ((Ascending.put key _ rows).lookup k).map _ = _
    rw [Ascending.lookup_put]
    split
    · rename_i hk
      rw [hk, hRow]
      rfl
    · rfl

theorem saveRows_origin (p : Persister σ ρ) (keys : List String) (rows : List (String × Traced ρ))
    (noted : Noted σ) (k : String) :
    ((saveRows p.traced keys rows noted).1.lookup k).map (·.origin) = (rows.lookup k).map (·.origin) := by
  induction keys generalizing rows noted with
  | nil => rfl
  | cons key keys ih => exact (ih _ _).trans (saveRow_origin p key rows noted k)

theorem saveRows_log (p : Persister σ ρ) (keys : List String) (rows : List (String × Traced ρ))
    (noted : Noted σ) :
    (saveRows p.traced keys rows noted).2.2 =
      noted.2 ++ keys.filterMap fun key => (rows.lookup key).map fun row => ⟨key, row.origin⟩ := by
  induction keys generalizing rows noted with
  | nil => exact (List.append_nil noted.2).symm
  | cons key keys ih =>
    change (saveRows p.traced keys (saveRow p.traced key rows noted).1
      (saveRow p.traced key rows noted).2).2.2 = _
    have hOrigin (k : String) :
        ((saveRow p.traced key rows noted).1.lookup k).map (fun row => (⟨k, row.origin⟩ : Handover)) =
          (rows.lookup k).map fun row => ⟨k, row.origin⟩ := by
      have h := congrArg (Option.map (Handover.mk k)) (saveRow_origin p key rows noted k)
      rwa [Option.map_map, Option.map_map] at h
    have hLog : (saveRow p.traced key rows noted).2.2 =
        noted.2 ++ ((rows.lookup key).map fun row => (⟨key, row.origin⟩ : Handover)).toList := by
      rw [saveRow]
      cases rows.lookup key with
      | none => exact (List.append_nil noted.2).symm
      | some row => rfl
    rw [ih, hLog, List.append_assoc, List.filterMap_cons]
    simp only [hOrigin]
    cases rows.lookup key <;> rfl

theorem setPersister_traced (p : Persister σ ρ) {traced : Context (Noted σ) (Traced ρ)} {c : Context σ ρ}
    (h : traced.Forgets c) (noted : Noted σ) :
    (traced.setPersister p.traced noted).1.Forgets (c.setPersister p noted.1).1 ∧
      (traced.setPersister p.traced noted).2.1 = (c.setPersister p noted.1).2 := by
  have hSaved := saveRows_traced p traced.pending traced.rows noted
  rw [h.rows, h.pending] at hSaved
  rw [setPersister_apply, setPersister_apply, hSaved, ← h.pending]
  exact ⟨⟨rfl, rfl, rfl⟩, rfl⟩

theorem register_traced {traced : Context (Noted σ) (Traced ρ)} {c : Context σ ρ}
    (h : traced.Forgets c) (key : String) (row : Traced ρ) :
    (traced.register key row).Forgets (c.register key row.row) where
  rows := by rw [register, plainRows_put, h.rows]; rfl
  persister := h.persister
  pending := by rw [register, h.pending]; rfl

theorem associate_traced {traced : Context (Noted σ) (Traced ρ)} {c : Context σ ρ}
    (h : traced.Forgets c) (key : String) (row : Traced ρ) (noted : Noted σ) :
    (traced.associate key row noted).1.Forgets (c.associate key row.row noted.1).1 ∧
      (traced.associate key row noted).2.1 = (c.associate key row.row noted.1).2 := by
  rw [associate, associate, h.persister]
  cases c.persister with
  | none =>
    have hRegister := register_traced h key row
    exact ⟨⟨hRegister.rows, hRegister.persister, congrArg (Ascending.insert key) hRegister.pending⟩, rfl⟩
  | some p => exact ⟨register_traced h key { row with row := (p key row.row noted.1).1 }, rfl⟩

theorem update_traced {traced : Context (Noted σ) (Traced ρ)} {c : Context σ ρ}
    (h : traced.Forgets c) (key : String) (change : ρ → ρ) :
    (traced.update key fun row => { row with row := change row.row }).Forgets (c.update key change) where
  rows := by
    rw [update, update, ← h.rows, plainRows, plainRows, List.map_map, List.map_map]
    apply List.map_congr_left
    intro entry _
    simp only [Function.comp_apply]
    split <;> rfl
  persister := h.persister
  pending := h.pending

end Context

theorem perform_traced (call : Call σ ρ) (number : Nat) {traced : Context (Noted σ) (Traced ρ)}
    {c : Context σ ρ} (h : traced.Forgets c) (noted : Noted σ) :
    ((call.traced number).perform traced noted).1.Forgets (call.perform c noted.1).1 ∧
      ((call.traced number).perform traced noted).2.1 = (call.perform c noted.1).2 := by
  cases call with
  | register key row => exact ⟨Context.register_traced h key ⟨number, row⟩, rfl⟩
  | associate key build =>
    exact Context.associate_traced h key ⟨number, (build noted.1).1⟩ ((build noted.1).2, noted.2)
  | setPersister p => exact Context.setPersister_traced p h noted
  | update key change => exact ⟨Context.update_traced h key change, rfl⟩

/-- A traced run is the run itself with traces. -/
theorem tracedRun_forgets (start : Option (Persister σ ρ)) (calls : List (Call σ ρ)) (world : σ) :
    (tracedRun start calls (world, [])).1.Forgets (run start calls world).1 ∧
      (tracedRun start calls (world, [])).2.1 = (run start calls world).2 := by
  induction calls using List.reverseRecOn with
  | nil => cases start <;> exact ⟨⟨rfl, rfl, rfl⟩, rfl⟩
  | append_singleton calls call ih =>
    rw [tracedRun_concat, run_concat, ← ih.2]
    exact perform_traced call calls.length ih.1 _

end RowFactory.Rows
