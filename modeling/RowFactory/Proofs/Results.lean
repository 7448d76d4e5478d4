import Mathlib.Data.List.Forall2

/-! # Steps that may fail

A chain of steps succeeds if each of them does.
-/

namespace RowFactory.Results

variable {ε α β : Type}

theorem bind_eq_ok {step : Except ε α} {next : α → Except ε β} {result : β} :
    step >>= next = .ok result ↔ ∃ value, step = .ok value ∧ next value = .ok result := by
  cases step with
  | error e => simp [bind, Except.bind]
  | ok value => simp [bind, Except.bind]

theorem bind_eq_error {step : Except ε α} {next : α → Except ε β} {e : ε} :
    step >>= next = .error e ↔ step = .error e ∨ ∃ value, step = .ok value ∧ next value = .error e := by
  cases step with
  | error _ => simp [bind, Except.bind]
  | ok value => simp [bind, Except.bind]

theorem map_eq_ok {step : Except ε α} {f : α → β} {result : β} :
    f <$> step = .ok result ↔ ∃ value, step = .ok value ∧ f value = result := by
  cases step <;> simp [Functor.map, Except.map]

theorem mapM_eq_ok {step : α → Except ε β} {list : List α} {results : List β} :
    list.mapM step = .ok results ↔ List.Forall₂ (fun a b => step a = .ok b) list results := by
  induction list generalizing results with
  | nil =>
    rw [List.mapM_nil, List.forall₂_nil_left_iff]
    change Except.ok [] = Except.ok results ↔ results = []
    rw [Except.ok.injEq, eq_comm]
  | cons a rest ih =>
    rw [List.mapM_cons, bind_eq_ok, List.forall₂_cons_left_iff]
    simp only [bind_eq_ok, ih]
    constructor
    · rintro ⟨b, hb, bs, hbs, hResults⟩
      cases hResults
      exact ⟨b, bs, hb, hbs, rfl⟩
    · rintro ⟨b, bs, hb, hbs, rfl⟩
      exact ⟨b, hb, bs, hbs, rfl⟩

theorem exists_of_mapM_eq_error {step : α → Except ε β} {list : List α} {e : ε} (h : list.mapM step = .error e) :
    ∃ a ∈ list, step a = .error e := by
  induction list with
  | nil => cases h
  | cons a rest ih =>
    rw [List.mapM_cons] at h
    rcases bind_eq_error.mp h with hHead | ⟨b, _, h⟩
    · exact ⟨a, List.mem_cons_self, hHead⟩
    · rcases bind_eq_error.mp h with hRest | ⟨bs, _, h⟩
      · obtain ⟨other, hOther, hError⟩ := ih hRest
        exact ⟨other, List.mem_cons_of_mem a hOther, hError⟩
      · cases h

theorem exists_eq_ok {step : Except ε α} (h : step.toOption.isSome) : ∃ value, step = .ok value := by
  cases step with
  | error e => cases h
  | ok value => exact ⟨value, rfl⟩

theorem exists_of_mem {r : α → β → Prop} {list : List α} {results : List β} (h : List.Forall₂ r list results)
    {b : β} (hb : b ∈ results) : ∃ a ∈ list, r a b := by
  induction h with
  | nil => cases hb
  | cons hHead _ ih =>
    rcases List.mem_cons.mp hb with rfl | hb
    · exact ⟨_, List.mem_cons_self, hHead⟩
    · obtain ⟨a, ha, hRel⟩ := ih hb
      exact ⟨a, List.mem_cons_of_mem _ ha, hRel⟩

theorem exists_of_mem_left {r : α → β → Prop} {list : List α} {results : List β} (h : List.Forall₂ r list results)
    {a : α} (ha : a ∈ list) : ∃ b ∈ results, r a b := by
  obtain ⟨b, hb, hRel⟩ := exists_of_mem h.flip ha
  exact ⟨b, hb, hRel⟩

theorem exists_getElem? {r : α → β → Prop} {list : List α} {results : List β} (h : List.Forall₂ r list results)
    {i : Nat} {a : α} (ha : list[i]? = some a) : ∃ b, results[i]? = some b ∧ r a b := by
  induction h generalizing i with
  | nil => cases ha
  | cons hHead _ ih =>
    cases i with
    | zero =>
      cases ha
      exact ⟨_, rfl, hHead⟩
    | succ i => exact ih ha

theorem exists_mapM_eq_ok {step : α → Except ε β} {list : List α} (h : ∀ a ∈ list, ∃ b, step a = .ok b) :
    ∃ results, list.mapM step = .ok results := by
  induction list with
  | nil => exact ⟨[], rfl⟩
  | cons a rest ih =>
    obtain ⟨b, hb⟩ := h a List.mem_cons_self
    obtain ⟨bs, hbs⟩ := ih fun other hOther => h other (List.mem_cons_of_mem a hOther)
    exact ⟨b :: bs, mapM_eq_ok.mpr (.cons hb (mapM_eq_ok.mp hbs))⟩

end RowFactory.Results
