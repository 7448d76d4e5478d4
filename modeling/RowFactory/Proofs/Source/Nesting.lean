import RowFactory.Source.Grammar

/-! # Items inside of items

Only modules that are written in place hold other items.
-/

namespace RowFactory.Source

/-- Only a module has contents, and the same goes for each item in it. -/
inductive WellNested : Item → Prop
  | module {name : String} {attributes : List Attribute} {contents : List Item}
      (h : ∀ i ∈ contents, WellNested i) : WellNested (.mk .module name attributes contents)
  | plain {kind : ItemKind} {name : String} {attributes : List Attribute} :
      WellNested (.mk kind name attributes [])

theorem WellNested.withAttributes {kind : ItemKind} {name : String} {attributes : List Attribute}
    {contents : List Item} (h : WellNested (.mk kind name attributes contents)) (others : List Attribute) :
    WellNested (.mk kind name others contents) := by
  cases h with
  | module h => exact .module h
  | plain => exact .plain

namespace Grammar

open Code Code.Grammar

def Yields {ρ : Type} (found : Option (Item × ρ)) : Prop := ∀ i rest, found = some (i, rest) → WellNested i

section Found

variable {ρ : Type}

theorem yields_none : Yields (none : Option (Item × ρ)) := fun _ _ h => nomatch h

theorem yields_some {i : Item} {rest : ρ} (h : WellNested i) : Yields (some (i, rest)) := by
  intro j after hFound
  cases hFound
  exact h

theorem yields_bind {α : Type} {first : Option α} {next : α → Option (Item × ρ)} (h : ∀ a, Yields (next a)) :
    Yields (first >>= next) := by
  cases first with
  | none => exact yields_none
  | some a => exact h a

theorem yields_map {α : Type} {first : Option α} {item : α → Item} {rest : α → ρ} (h : ∀ a, WellNested (item a)) :
    Yields (first.map fun a => (item a, rest a)) := by
  cases first with
  | none => exact yields_none
  | some a => exact yields_some (h a)

theorem yields_ite {p : Prop} [Decidable p] {first second : Option (Item × ρ)} (hFirst : Yields first)
    (hSecond : Yields second) : Yields (if p then first else second) := by
  split
  · exact hFirst
  · exact hSecond

theorem yields_other (rest : Option Tokens) : Yields (other rest) := yields_map fun _ => .plain

theorem yields_verbatim (rest : Option Tokens) : Yields (verbatim rest) := yields_map fun _ => .plain

theorem yields_parsed {found : Option (Item × Tokens)} (h : Yields found) : Yields (parsed found) := by
  cases found with
  | none => exact yields_none
  | some entry => exact yields_some (h entry.1 entry.2 rfl)

end Found

theorem yields_structItem (tokens : Tokens) : Yields (structItem tokens) := by
  rw [structItem]
  refine yields_bind fun ⟨name, _⟩ => yields_bind fun rest => yields_bind fun rest => ?_
  have hRest (found : Option Tokens) : Yields (found >>= fun rest => pure (Item.mk .struct name.text [] [], rest)) :=
    yields_bind fun _ => yields_some .plain
  exact yields_ite (hRest _) (yields_ite (hRest _) (hRest _))

theorem yields_enumItem (tokens : Tokens) : Yields (enumItem tokens) := by
  rw [enumItem]
  exact yields_bind fun ⟨name, _⟩ => yields_bind fun _ => yields_bind fun _ => yields_some .plain

theorem yields_traitItem (aliasAllowed : Bool) (tokens : Tokens) : Yields (traitItem aliasAllowed tokens) := by
  rw [traitItem]
  refine yields_bind fun ⟨name, _⟩ => yields_bind fun rest => ?_
  split
  · exact yields_other _
  · dsimp only
    split
    · exact yields_bind fun _ => yields_bind fun _ => yields_bind fun _ => yields_some .plain
    · exact yields_bind fun _ => yields_bind fun _ => yields_bind fun _ => yields_some .plain

theorem yields_functionItem (tokens : Tokens) : Yields (functionItem tokens) := by
  rw [functionItem]
  refine yields_bind fun ⟨name, rest⟩ => ?_
  dsimp only
  split
  · exact yields_verbatim _
  · exact yields_bind fun ⟨_, _⟩ => yields_some .plain

theorem yields_implementation (visible : Bool) (tokens : Tokens) :
    Yields ((implementation visible tokens).map fun (kept, rest) => (Item.mk .other "" [] [], kept, rest)) :=
  yields_map fun _ => .plain

theorem yields_definition {kind : ItemKind} (found : Option (Ident × Bool × Tokens)) :
    Yields (found.map fun (name, plain, rest) =>
      if plain then (Item.mk kind name.text [] [], false, rest) else (Item.mk .other "" [] [], true, rest)) := by
  rcases found with _ | ⟨name, plain, rest⟩
  · exact yields_none
  · cases plain <;> exact yields_some .plain

theorem yields_plainItem {fuel : Nat} (hModule : ∀ tokens, Yields (moduleItem fuel tokens)) (tokens : Tokens) :
    Yields (plainItem (fuel + 1) tokens) := by
  rw [plainItem]
  split
  · exact yields_none
  · rename_i visible rest _
    have hHidden {found : Option (Item × Bool × Tokens)} (h : Yields found) :
        Yields (if visible then none else found) := yields_ite yields_none h
    have hMacro :
        Yields (if startsPath rest then if visible then none else parsed (other (macroCall rest)) else none) :=
      yields_ite (hHidden (yields_parsed (yields_other _))) yields_none
    refine yields_ite (yields_functionItem rest) ?_
    dsimp only
    split
    · split
      case h_1 =>
        split
        · exact yields_parsed (yields_other _)
        · exact hHidden (yields_parsed (yields_other _))
      case h_2 => exact yields_parsed (yields_other _)
      case h_3 => exact yields_map fun _ => .plain
      case h_4 => exact yields_definition _
      case h_5 =>
        refine yields_ite (yields_parsed (yields_bind fun _ => yields_traitItem _ _)) ?_
        refine yields_ite (yields_implementation visible _) ?_
        exact yields_ite (hHidden (yields_parsed (yields_other _))) (yields_ite (hModule _) yields_none)
      case h_6 => exact hModule _
      case h_7 => exact yields_definition _
      case h_8 => exact yields_parsed (yields_structItem _)
      case h_9 => exact yields_parsed (yields_enumItem _)
      case h_10 => exact yields_parsed (yields_traitItem _ _)
      case h_11 => exact yields_implementation visible _
      case h_12 => exact yields_verbatim _
      case h_13 =>
        refine yields_ite (yields_parsed (yields_other _)) ?_
        refine yields_ite (yields_parsed (yields_traitItem _ _)) ?_
        exact yields_ite (yields_implementation visible _) hMacro
    · exact hMacro

theorem yields_moduleItem {fuel : Nat}
    (hItems : ∀ tokens list, items fuel tokens = some list → ∀ i ∈ list, WellNested i) (tokens : Tokens) :
    Yields (moduleItem (fuel + 1) tokens) := by
  rw [moduleItem]
  split
  · exact yields_none
  · split
    · exact yields_some .plain
    · split
      · exact yields_none
      · split
        · exact yields_none
        · split
          · rename_i contents hContents
            exact yields_some (.module (hItems _ _ hContents))
          · exact yields_none

theorem yields_item {fuel : Nat} (hPlain : ∀ tokens, Yields (plainItem fuel tokens)) (tokens : Tokens) :
    Yields (item (fuel + 1) tokens) := by
  rw [item]
  split
  · exact yields_none
  · split
    · rename_i hFound
      exact yields_some ((hPlain _ _ _ hFound).withAttributes _)
    · exact yields_none

theorem wellNested_items {fuel : Nat} (hItem : ∀ tokens, Yields (item fuel tokens))
    (hItems : ∀ tokens list, items fuel tokens = some list → ∀ i ∈ list, WellNested i) (tokens : Tokens)
    (list : List Item) (h : items (fuel + 1) tokens = some list) : ∀ i ∈ list, WellNested i := by
  rw [items] at h
  split at h
  · cases h
    exact fun _ hi => nomatch hi
  · split at h
    · rename_i first _ rest hFirst
      obtain ⟨others, hOthers, rfl⟩ := Option.map_eq_some_iff.mp h
      exact List.forall_mem_cons.mpr ⟨hItem _ _ _ hFirst, hItems _ _ hOthers⟩
    · cases h

structure Nests (fuel : Nat) : Prop where
  plainItem : ∀ tokens, Yields (plainItem fuel tokens)
  moduleItem : ∀ tokens, Yields (moduleItem fuel tokens)
  item : ∀ tokens, Yields (item fuel tokens)
  items : ∀ tokens list, items fuel tokens = some list → ∀ i ∈ list, WellNested i

theorem nests (fuel : Nat) : Nests fuel := by
  induction fuel with
  | zero =>
    refine ⟨fun tokens => ?_, fun tokens => ?_, fun tokens => ?_, fun tokens list h => ?_⟩
    · rw [Grammar.plainItem]
      exact yields_none
    · rw [Grammar.moduleItem]
      exact yields_none
    · rw [Grammar.item]
      exact yields_none
    · rw [Grammar.items] at h
      cases h
  | succ fuel ih =>
    exact ⟨yields_plainItem ih.moduleItem, yields_moduleItem ih.items, yields_item ih.plainItem,
      wellNested_items ih.item ih.items⟩

end Grammar

/-- In every source text only modules hold other items. -/
theorem wellNested_of_readItems {source : String} {items : List Item} (h : readItems source = some items) :
    ∀ i ∈ items, WellNested i := by
  obtain ⟨tokens, _, h⟩ := Option.bind_eq_some_iff.mp h
  obtain ⟨⟨_, content⟩, _, h⟩ := Option.bind_eq_some_iff.mp h
  exact (Grammar.nests _).items _ _ h

end RowFactory.Source
