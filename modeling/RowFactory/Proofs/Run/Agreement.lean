import RowFactory.Run.Function

/-! # Actions that agree

Two actions agree if they do the same to every world, and give results that belong together or none at all.
-/

namespace RowFactory.Run

variable {σ α β γ δ : Type}

def Agree (r : α → β → Prop) (x : Action σ α) (y : Action σ β) : Prop :=
  ∀ world, (x.run world).2 = (y.run world).2 ∧ Option.Rel r (x.run world).1 (y.run world).1

theorem run_bind (x : Action σ α) (f : α → Action σ γ) (world : σ) :
    (x >>= f).run world = match x.run world with
      | (some a, world) => (f a).run world
      | (none, world) => (none, world) := by
  rw [OptionT.run_bind]
  change ((x.run world).1.elim (Pure.pure none : StateM σ (Option γ)) fun a => (f a).run) (x.run world).2 = _
  rcases x.run world with ⟨_ | a, after⟩ <;> rfl

theorem run_lift (x : StateM σ α) (world : σ) :
    (OptionT.lift x : Action σ α).run world = (some (x.run world).1, (x.run world).2) := rfl

theorem Agree.exists_of_eq_some {r : α → β → Prop} {x : Action σ α} {y : Action σ β} (h : Agree r x y)
    {world : σ} {b : β} (hb : (y.run world).1 = some b) : ∃ a, (x.run world).1 = some a ∧ r a b := by
  have hResult := (h world).2
  rw [hb] at hResult
  cases hx : (x.run world).1 with
  | none =>
    rw [hx] at hResult
    cases hResult
  | some a =>
    rw [hx] at hResult
    cases hResult with
    | some hRelated => exact ⟨a, rfl, hRelated⟩

namespace Agree

variable {r : α → β → Prop} {s : γ → δ → Prop} {x : Action σ α} {y : Action σ β}

theorem pure {a : α} {b : β} (h : r a b) : Agree r (Pure.pure a : Action σ α) (Pure.pure b) :=
  fun _ => ⟨rfl, .some h⟩

theorem refl (x : Action σ α) : Agree Eq x x := by
  intro world
  refine ⟨rfl, ?_⟩
  cases (x.run world).1 with
  | none => exact .none
  | some a => exact .some rfl

theorem bind {f : α → Action σ γ} {g : β → Action σ δ} (h : Agree r x y)
    (hNext : ∀ a b, r a b → Agree s (f a) (g b)) : Agree s (x >>= f) (y >>= g) := by
  intro world
  obtain ⟨hWorld, hResult⟩ := h world
  rw [run_bind, run_bind]
  cases hx : x.run world with
  | mk a after =>
    cases hy : y.run world with
    | mk b other =>
      rw [hx, hy] at hWorld hResult
      obtain rfl : after = other := hWorld
      cases hResult with
      | none => exact ⟨rfl, .none⟩
      | some hRelated => exact hNext _ _ hRelated after

theorem foldlM {ε : Type} {list : List ε} {f : α → ε → Action σ α} {g : β → ε → Action σ β}
    (hStep : ∀ e ∈ list, ∀ a b, r a b → Agree r (f a e) (g b e)) {a : α} {b : β} (h : r a b) :
    Agree r (list.foldlM f a) (list.foldlM g b) := by
  induction list generalizing a b with
  | nil => exact pure h
  | cons e rest ih =>
    rw [List.foldlM_cons, List.foldlM_cons]
    refine (hStep e List.mem_cons_self a b h).bind fun a b hNext => ?_
    exact ih (fun e he => hStep e (List.mem_cons_of_mem _ he)) hNext

end Agree

end RowFactory.Run
