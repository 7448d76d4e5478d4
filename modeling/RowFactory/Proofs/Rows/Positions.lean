import RowFactory.Proofs.Rows.Calls

/-! # When a persister is set

A persister that comes late saves the rows that wait for it, and it saves nothing else. If what it makes of a
row depends on the row and its key alone, the rows are in the end those of a context that had the persister from
the beginning. The invariant compares a context with these rows: only a key that waits may differ, and there
saving makes up the difference.
-/

namespace RowFactory.Rows

variable {σ ρ τ : Type}

/-- What becomes of a row that is saved depends on its key and on itself. -/
def Persister.Makes (p : Persister σ ρ) (saved : String → ρ → ρ) : Prop :=
  ∀ key row world, (p key row world).1 = saved key row

/-- What the calls build depends on a part of the world that the persister leaves as it is: the calls are the
same calls, whatever has been saved in between. -/
structure Persister.Apart (p : Persister σ ρ) (calls : List (Call σ ρ)) (view : σ → τ) : Prop where
  saving : ∀ key row world, view (p key row world).2 = view world
  building : ∀ key build, .associate key build ∈ calls → ∀ world other, view world = view other →
    (build world).1 = (build other).1 ∧ view (build world).2 = view (build other).2

/-- What a call leaves behind if every row that was built for the context is saved at once. -/
def Call.keep (saved : String → ρ → ρ) (rows : List (String × ρ)) : Call σ ρ → StateM σ (List (String × ρ))
  | .register key row => pure (Ascending.put key row rows)
  | .associate key build => do
    let row ← build
    return Ascending.put key (saved key row) rows
  | .setPersister _ | .update _ _ => pure rows

/-- The calls, and the persister set before call `i` or after the last one. -/
def settingAt (p : Persister σ ρ) (calls : List (Call σ ρ)) (i : Nat) : List (Call σ ρ) :=
  calls.take i ++ .setPersister p :: calls.drop i

theorem foldlM_append_apply {α β : Type} (step : β → α → StateM σ β) (first second : List α) (start : β) (world : σ) :
    (first ++ second).foldlM step start world =
      second.foldlM step (first.foldlM step start world).1 (first.foldlM step start world).2 := by
  rw [List.foldlM_append]
  rfl

namespace Context

variable {p : Persister σ ρ} {saved : String → ρ → ρ}

theorem lookup_saveRow (hMakes : p.Makes saved) (key : String) (rows : List (String × ρ)) (world : σ) (k : String) :
    (saveRow p key rows world).1.lookup k =
      if k = key then (rows.lookup k).map (saved key) else rows.lookup k := by
  rw [saveRow]
  cases hRow : rows.lookup key with
  | none =>
    change rows.lookup k = _
    split
    · rename_i hk
      rw [hk, hRow]
      rfl
    · rfl
  | some row =>
    change (Ascending.put key (p key row world).1 rows).lookup k = _
    rw [Ascending.lookup_put, hMakes]
    split
    · rename_i hk
      rw [hk, hRow]
      rfl
    · rfl

theorem lookup_saveRows (hMakes : p.Makes saved) {keys : List String} (hKeys : keys.Nodup)
    (rows : List (String × ρ)) (world : σ) (k : String) :
    (saveRows p keys rows world).1.lookup k = if k ∈ keys then (rows.lookup k).map (saved k) else rows.lookup k := by
  induction keys generalizing rows world with
  | nil => rfl
  | cons key keys ih =>
    obtain ⟨hKey, hKeys⟩ := List.nodup_cons.mp hKeys
    change (saveRows p keys (saveRow p key rows world).1 (saveRow p key rows world).2).1.lookup k = _
    rw [ih hKeys, lookup_saveRow hMakes]
    by_cases hk : k = key
    · subst hk
      rw [if_neg hKey, if_pos rfl, if_pos List.mem_cons_self]
    · simp [hk]

theorem ascending_saveRows (p : Persister σ ρ) (keys : List String) {rows : List (String × ρ)}
    (h : rows.Pairwise fun a b => a.1 < b.1) (world : σ) :
    (saveRows p keys rows world).1.Pairwise fun a b => a.1 < b.1 := by
  induction keys generalizing rows world with
  | nil => exact h
  | cons key keys ih =>
    have hRow : (saveRow p key rows world).1.Pairwise fun a b => a.1 < b.1 := by
      rw [saveRow]
      cases rows.lookup key with
      | none => exact h
      | some row => exact Ascending.pairwise_put h
    exact ih hRow _

theorem view_saveRows {view : σ → τ} (hSaving : ∀ key row world, view (p key row world).2 = view world)
    (keys : List String) (rows : List (String × ρ)) (world : σ) : view (saveRows p keys rows world).2 = view world := by
  induction keys generalizing rows world with
  | nil => rfl
  | cons key keys ih =>
    have hRow : view (saveRow p key rows world).2 = view world := by
      rw [saveRow]
      cases rows.lookup key with
      | none => rfl
      | some row => exact hSaving key row world
    exact (ih _ _).trans hRow

/-- Once the rows that wait are saved, the context holds the given rows. -/
structure Settles (p : Persister σ ρ) (saved : String → ρ → ρ) (c : Context σ ρ) (rows : List (String × ρ)) :
    Prop where
  persister : c.persister = none ∨ c.persister = some p ∧ c.pending = []
  row : ∀ key, rows.lookup key = if key ∈ c.pending then (c.row? key).map (saved key) else c.row? key
  pending : c.pending.Pairwise (· < ·)
  ascending : c.rows.Pairwise fun a b => a.1 < b.1
  settled : rows.Pairwise fun a b => a.1 < b.1

variable {c : Context σ ρ} {rows : List (String × ρ)} {view : σ → τ}

theorem Settles.register (h : c.Settles p saved rows) (key : String) (row : ρ) :
    (c.register key row).Settles p saved (Ascending.put key row rows) where
  persister := h.persister.imp_right fun ⟨hSome, hNil⟩ => ⟨hSome, by rw [Context.register, hNil]; rfl⟩
  row k := by
    simp only [Ascending.lookup_put, mem_pending_register, row?_register, h.row k]
    by_cases hk : k = key <;> simp [hk]
  pending := h.pending.filter _
  ascending := Ascending.pairwise_put h.ascending
  settled := Ascending.pairwise_put h.settled

theorem Settles.wait (h : c.Settles p saved rows) (hNone : c.persister = none) (key : String) (row : ρ) :
    Settles p saved { c.register key row with pending := Ascending.insert key (c.register key row).pending }
      (Ascending.put key (saved key row) rows) where
  persister := .inl hNone
  row k := by
    change _ = if k ∈ Ascending.insert key (c.register key row).pending then
      ((c.register key row).row? k).map (saved k) else (c.register key row).row? k
    simp only [Ascending.lookup_put, Ascending.mem_insert, mem_pending_register, row?_register, h.row k]
    by_cases hk : k = key
    · subst hk
      simp
    · simp [hk]
  pending := Ascending.pairwise_insert (h.pending.filter _)
  ascending := Ascending.pairwise_put h.ascending
  settled := Ascending.pairwise_put h.settled

theorem Settles.associate (h : c.Settles p saved rows) (hMakes : p.Makes saved)
    (hSaving : ∀ key row world, view (p key row world).2 = view world) (key : String) (row : ρ) (world : σ) :
    let after := c.associate key row world
    after.1.Settles p saved (Ascending.put key (saved key row) rows) ∧ view after.2 = view world ∧
      after.1.persister = c.persister := by
  rw [Context.associate]
  rcases hPersister : h.persister with hNone | ⟨hSome, _⟩
  · rw [hNone]
    exact ⟨h.wait hNone key row, rfl, hNone⟩
  · rw [hSome]
    refine ⟨?_, hSaving key row world, hSome⟩
    rw [← hMakes key row world]
    exact h.register key (p key row world).1

theorem Settles.setPersister (h : c.Settles p saved rows) (hMakes : p.Makes saved)
    (hSaving : ∀ key row world, view (p key row world).2 = view world) (world : σ) :
    let after := c.setPersister p world
    after.1.Settles p saved rows ∧ view after.2 = view world ∧ after.1.persister = some p := by
  rw [setPersister_apply]
  refine ⟨?_, view_saveRows hSaving c.pending c.rows world, rfl⟩
  exact
    { persister := .inr ⟨rfl, rfl⟩
      row := fun k => by
        have hNodup : c.pending.Nodup := h.pending.imp ne_of_lt
        rw [h.row, if_neg List.not_mem_nil]
        exact (lookup_saveRows hMakes hNodup c.rows world k).symm
      pending := List.Pairwise.nil
      ascending := ascending_saveRows p c.pending h.ascending world
      settled := h.settled }

theorem Settles.rows_eq (h : c.Settles p saved rows) (hSome : c.persister.isSome) : c.rows = rows := by
  have hPending : c.pending = [] := by
    rcases h.persister with hNone | ⟨_, hNil⟩
    · rw [hNone] at hSome
      cases hSome
    · exact hNil
  refine Ascending.eq_of_lookup_eq h.ascending h.settled fun k => ?_
  rw [h.row, hPending, if_neg List.not_mem_nil]
  rfl

theorem Settles.perform (h : c.Settles p saved rows) (hMakes : p.Makes saved) {call : Call σ ρ}
    (hApart : p.Apart [call] view) (hStores : ∃ key, call.Stores key) {world other : σ}
    (hView : view world = view other) :
    let after := call.perform c world
    let kept := call.keep saved rows other
    after.1.Settles p saved kept.1 ∧ view after.2 = view kept.2 ∧ after.1.persister = c.persister := by
  obtain ⟨key, hStores⟩ := hStores
  cases call with
  | register k row => exact ⟨h.register k row, hView, rfl⟩
  | associate k build =>
    obtain ⟨hRow, hNext⟩ := hApart.building k build List.mem_cons_self world other hView
    obtain ⟨hSettles, hSaved, hPersister⟩ :=
      h.associate hMakes hApart.saving k (build world).1 (build world).2
    refine ⟨?_, hSaved.trans hNext, hPersister⟩
    change Settles p saved _ (Ascending.put k (saved k (build other).1) rows)
    rw [← hRow]
    exact hSettles
  | setPersister _ | update _ _ => exact hStores.elim

theorem Settles.foldlM (hMakes : p.Makes saved) {calls : List (Call σ ρ)} (hApart : p.Apart calls view)
    (hStores : ∀ call ∈ calls, ∃ key, call.Stores key) (h : c.Settles p saved rows) {world other : σ}
    (hView : view world = view other) :
    let after := calls.foldlM Call.perform c world
    let kept := calls.foldlM (Call.keep saved) rows other
    after.1.Settles p saved kept.1 ∧ view after.2 = view kept.2 ∧ after.1.persister = c.persister := by
  induction calls generalizing c rows world other with
  | nil => exact ⟨h, hView, rfl⟩
  | cons call rest ih =>
    have hCall : p.Apart [call] view := ⟨hApart.saving, fun key build hMem =>
      hApart.building key build (List.mem_singleton.mp hMem ▸ List.mem_cons_self)⟩
    have hRest : p.Apart rest view := ⟨hApart.saving, fun key build hMem =>
      hApart.building key build (List.mem_cons_of_mem call hMem)⟩
    obtain ⟨hSettles, hNext, hPersister⟩ := h.perform hMakes hCall (hStores call List.mem_cons_self) hView
    obtain ⟨hSettles, hNext, hSame⟩ :=
      ih hRest (fun c hc => hStores c (List.mem_cons_of_mem call hc)) hSettles hNext
    rw [List.foldlM_cons, List.foldlM_cons]
    exact ⟨hSettles, hNext, hSame.trans hPersister⟩

end Context

/-- Wherever the persister is set, the rows are in the end those of the calls alone, with every row that was
built for the context saved. -/
theorem rows_settingAt {p : Persister σ ρ} {saved : String → ρ → ρ} {calls : List (Call σ ρ)} {view : σ → τ}
    (hMakes : p.Makes saved) (hApart : p.Apart calls view) (hStores : ∀ call ∈ calls, ∃ key, call.Stores key)
    (world : σ) (i : Nat) :
    (run none (settingAt p calls i) world).1.rows = (calls.foldlM (Call.keep saved) [] world).1 := by
  have hPart {part : List (Call σ ρ)} (hPart : ∀ call ∈ part, call ∈ calls) : p.Apart part view :=
    ⟨hApart.saving, fun key build hMem => hApart.building key build (hPart _ hMem)⟩
  have hTake : ∀ call ∈ calls.take i, call ∈ calls := fun call => List.mem_of_mem_take
  have hDrop : ∀ call ∈ calls.drop i, call ∈ calls := fun call => List.mem_of_mem_drop
  have hStart : Context.Settles p saved ({} : Context σ ρ) [] :=
    ⟨.inl rfl, fun _ => rfl, List.Pairwise.nil, List.Pairwise.nil, List.Pairwise.nil⟩
  obtain ⟨hBefore, hBeforeView, _⟩ :=
    hStart.foldlM hMakes (hPart hTake) (fun call hCall => hStores call (hTake call hCall)) (Eq.refl (view world))
  obtain ⟨hSet, hSetView, hSome⟩ := hBefore.setPersister hMakes hApart.saving _
  obtain ⟨hAfter, _, hPersister⟩ :=
    hSet.foldlM hMakes (hPart hDrop) (fun call hCall => hStores call (hDrop call hCall))
      (hSetView.trans hBeforeView)
  have hRun : run none (settingAt p calls i) world =
      (settingAt p calls i).foldlM Call.perform {} world := rfl
  rw [hRun, settingAt, foldlM_append_apply]
  conv_rhs => rw [← List.take_append_drop i calls, foldlM_append_apply]
  exact hAfter.rows_eq (by rw [hPersister, hSome]; rfl)

/-- A persister that makes of a row what depends on the row and its key alone gives the same rows wherever it is
set, before the first call, after the last one or in between. -/
theorem rows_independent_of_position {p : Persister σ ρ} {saved : String → ρ → ρ} {calls : List (Call σ ρ)}
    {view : σ → τ} (hMakes : p.Makes saved) (hApart : p.Apart calls view)
    (hStores : ∀ call ∈ calls, ∃ key, call.Stores key) (world : σ) :
    (∀ i j, (run none (settingAt p calls i) world).1.rows = (run none (settingAt p calls j) world).1.rows) ∧
      ∀ i, (run none (settingAt p calls i) world).1.rows = (calls.foldlM (Call.keep saved) [] world).1 := by
  have hRows := rows_settingAt hMakes hApart hStores world
  exact ⟨fun i j => (hRows i).trans (hRows j).symm, hRows⟩

def Call.Given : Call σ ρ → Prop
  | .register _ _ => True
  | .associate _ build => ∃ row, build = pure row
  | .setPersister _ | .update _ _ => False

theorem Call.Given.stores {call : Call σ ρ} (h : call.Given) : ∃ key, call.Stores key := by
  cases call with
  | register key _ | associate key _ => exact ⟨key, rfl⟩
  | setPersister _ | update _ _ => exact h.elim

theorem Persister.apart_of_given (p : Persister σ ρ) {calls : List (Call σ ρ)} (h : ∀ call ∈ calls, call.Given) :
    p.Apart calls fun _ => () where
  saving _ _ _ := rfl
  building _ _ hMem _ _ _ := by
    obtain ⟨row, rfl⟩ := h _ hMem
    exact ⟨rfl, rfl⟩

/-- If the rows of the calls are there before, nothing has to be known of the world. -/
theorem rows_settingAt_given {p : Persister σ ρ} {saved : String → ρ → ρ} {calls : List (Call σ ρ)}
    (hMakes : p.Makes saved) (hGiven : ∀ call ∈ calls, call.Given) (world : σ) (i j : Nat) :
    (run none (settingAt p calls i) world).1.rows = (run none (settingAt p calls j) world).1.rows := by
  have hRows := rows_settingAt hMakes (p.apart_of_given hGiven) (fun call hCall => (hGiven call hCall).stores) world
  exact (hRows i).trans (hRows j).symm

def addHundred : Persister (Nat × List String) Nat := fun key row => do
  modify fun (next, log) => (next, log ++ [key])
  return row + 100

def numbered : StateM (Nat × List String) Nat := modifyGet fun (next, log) => (next, next + 1, log)

/-- Both keys are used again: one for another row that is built, one for a row that is registered. -/
def repeatedKeys : List (Call (Nat × List String) Nat) :=
  [.associate "user_id" numbered, .associate "editor_id" numbered, .register "editor_id" 7,
    .associate "user_id" numbered]

theorem rows_independent_of_position_repeatedKeys :
    (∀ i j, (run none (settingAt addHundred repeatedKeys i) (0, [])).1.rows =
      (run none (settingAt addHundred repeatedKeys j) (0, [])).1.rows) ∧
      ∀ i, (run none (settingAt addHundred repeatedKeys i) (0, [])).1.rows = [("editor_id", 7), ("user_id", 102)] := by
  have hApart : addHundred.Apart repeatedKeys Prod.fst := by
    refine ⟨fun _ _ _ => rfl, fun key build hMem => ?_⟩
    simp only [repeatedKeys, List.mem_cons, Call.associate.injEq, reduceCtorEq, List.not_mem_nil, or_false,
      false_or] at hMem
    have hBuild : build = numbered := by rcases hMem with ⟨_, h⟩ | ⟨_, h⟩ | ⟨_, h⟩ <;> exact h
    rintro ⟨next, log⟩ ⟨other, log'⟩ hSame
    cases hSame
    rw [hBuild]
    exact ⟨rfl, rfl⟩
  have hStores : ∀ call ∈ repeatedKeys, ∃ key, call.Stores key := by
    simp [repeatedKeys, Call.Stores]
  have hMakes : addHundred.Makes fun _ row => row + 100 := fun _ _ _ => rfl
  obtain ⟨hSame, hRows⟩ := rows_independent_of_position hMakes hApart hStores (0, [])
  exact ⟨hSame, fun i => (hRows i).trans (by decide)⟩

end RowFactory.Rows
