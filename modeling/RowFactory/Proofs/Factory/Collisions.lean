import Mathlib.Data.List.Induction
import Mathlib.Data.List.Nodup
import RowFactory.Factory.Plan
import RowFactory.Proofs.Ascending

/-! # What the lack of collisions means

Association methods have names of their own, none of which the context has, and neither a field nor a parameter
takes the name that the generated code gives to something else.
-/

namespace RowFactory.Factory

theorem addSource_eq_put {table : List (String × List String)} (h : table.Pairwise fun a b => a.1 < b.1)
    (symbol source : String) :
    addSource symbol source table = Ascending.put symbol ((table.lookup symbol).getD [] ++ [source]) table := by
  induction table with
  | nil => rfl
  | cons entry rest ih =>
    obtain ⟨s, sources⟩ := entry
    obtain ⟨hFirst, hRest⟩ := List.pairwise_cons.mp h
    rw [addSource, Ascending.put, Ascending.lookup_cons]
    split
    · rename_i hLess
      have hOther : symbol ≠ s := ne_of_lt hLess
      have hNone : rest.lookup symbol = none := by
        rw [List.lookup_eq_none_iff]
        exact fun entry hEntry => bne_iff_ne.mpr (ne_of_lt (lt_trans hLess (hFirst entry hEntry)))
      rw [if_neg hOther, hNone]
      rfl
    · split
      · rename_i hSame
        rw [hSame]
        rfl
      · rw [ih hRest]

theorem sourcesOf_concat (pairs : List (String × String)) (symbol source : String) :
    sourcesOf (pairs ++ [(symbol, source)]) = addSource symbol source (sourcesOf pairs) := by
  rw [sourcesOf, List.foldl_append]
  rfl

/-- Every symbol has its sources in their order, and no other symbol is listed. -/
theorem lookup_sourcesOf (pairs : List (String × String)) :
    (sourcesOf pairs).Pairwise (fun a b => a.1 < b.1) ∧
      ∀ symbol, (sourcesOf pairs).lookup symbol =
        if pairs.any (·.1 = symbol) then some ((pairs.filter (·.1 = symbol)).map (·.2)) else none := by
  induction pairs using List.reverseRecOn with
  | nil => exact ⟨List.Pairwise.nil, fun _ => rfl⟩
  | append_singleton pairs pair ih =>
    obtain ⟨s, source⟩ := pair
    obtain ⟨hAscending, hLookup⟩ := ih
    rw [sourcesOf_concat, addSource_eq_put hAscending]
    refine ⟨Ascending.pairwise_put hAscending, fun symbol => ?_⟩
    rw [Ascending.lookup_put, hLookup, hLookup, List.any_append, List.filter_append]
    by_cases hSame : symbol = s
    · subst hSame
      by_cases hAny : pairs.any (·.1 = symbol)
      · simp [hAny]
      · have hNone : pairs.filter (·.1 = symbol) = [] := by
          rw [List.filter_eq_nil_iff]
          intro pair hPair hSymbol
          exact hAny (List.any_eq_true.mpr ⟨pair, hPair, hSymbol⟩)
        simp [hAny, hNone]
    · have hAny : [(s, source)].any (·.1 = symbol) = false := by simp [Ne.symm hSame]
      have hFilter : [(s, source)].filter (·.1 = symbol) = [] := by simp [Ne.symm hSame]
      rw [if_neg hSame, hAny, hFilter, Bool.or_false, List.append_nil]

theorem exists_sources {pairs : List (String × String)} {pair : String × String} (h : pair ∈ pairs) :
    (pair.1, (pairs.filter (·.1 = pair.1)).map (·.2)) ∈ sourcesOf pairs := by
  have hLookup := (lookup_sourcesOf pairs).2 pair.1
  rw [if_pos (List.any_eq_true.mpr ⟨pair, h, by simp⟩), List.lookup_eq_some_iff] at hLookup
  obtain ⟨before, after, hTable, _⟩ := hLookup
  rw [hTable]
  exact List.mem_append_right before List.mem_cons_self

theorem nodup_symbols {pairs : List (String × String)}
    (h : ∀ entry ∈ sourcesOf pairs, ¬ 1 < entry.2.length) : (pairs.map (·.1)).Nodup := by
  rw [List.nodup_iff_count_le_one]
  intro symbol
  have hCount : (pairs.map (·.1)).count symbol = (pairs.filter (·.1 = symbol)).length := by
    rw [List.count, List.countP_map, List.countP_eq_length_filter]
    congr 1
  rw [hCount]
  cases hFilter : pairs.filter (·.1 = symbol) with
  | nil => exact Nat.zero_le 1
  | cons pair rest =>
    have hMem : pair ∈ pairs.filter (·.1 = symbol) := hFilter ▸ List.mem_cons_self
    obtain ⟨hPair, hSymbol⟩ := List.mem_filter.mp hMem
    have hLength := h _ (exists_sources hPair)
    rw [of_decide_eq_true hSymbol, hFilter, List.length_map] at hLength
    exact Nat.le_of_not_lt hLength

namespace Plan

variable {p : Plan}

theorem collision?_eq_none_iff : p.collision? = none ↔
    p.markerCollision? = none ∧ p.methodCollision? = none ∧ p.blockCollision? = none ∧ p.contextCollision? = none := by
  rw [collision?]
  cases p.markerCollision? <;> cases p.methodCollision? <;> cases p.blockCollision? <;> simp

theorem markers_of_no_collision (h : p.markerCollision? = none) :
    ((p.fields.filterMap (·.marker)).map Code.Ident.text).Nodup := by
  rw [markerCollision?, List.findSome?_eq_none_iff] at h
  have hNodup := nodup_symbols fun entry hMem hLength => by
    have hNone := h entry hMem
    dsimp only at hNone
    rw [if_pos hLength] at hNone
    cases hNone
  have hSymbols : (p.fields.filterMap fun f => f.marker.map fun m => (m.text, f.name)).map (·.1) =
      (p.fields.filterMap (·.marker)).map Code.Ident.text := by
    rw [List.map_filterMap, List.map_filterMap]
    simp only [Option.map_map]
    rfl
  rwa [← hSymbols]

theorem methods_of_no_collision (h : p.methodCollision? = none) :
    (p.associations.map (·.method.name)).Nodup ∧ ∀ a ∈ p.associations, a.method.name ∉ contextMethods := by
  rw [methodCollision?, List.findSome?_eq_none_iff] at h
  have hEntry : ∀ entry ∈ sourcesOf (p.associations.map fun a => (a.method.name, a.field)),
      ¬ 1 < entry.2.length ∧ entry.1 ∉ contextMethods := by
    rintro ⟨symbol, sources⟩ hMem
    have hNone := h _ hMem
    dsimp only at hNone
    split at hNone
    · cases hNone
    · rename_i hLength
      split at hNone
      · cases hNone
      · rename_i hMethod
        refine ⟨hLength, fun hContext => hMethod ?_⟩
        rw [List.contains_eq_mem]
        exact decide_eq_true hContext
  constructor
  · have hNodup := nodup_symbols fun entry hMem => (hEntry entry hMem).1
    rwa [List.map_map] at hNodup
  · intro a ha
    have hMem : (a.method.name, a.field) ∈ p.associations.map fun a => (a.method.name, a.field) :=
      List.mem_map_of_mem ha
    exact (hEntry _ (exists_sources hMem)).2

theorem no_block_of_no_collision (h : p.blockCollision? = none) :
    ∀ f ∈ p.constructorFields, f.name ≠ blockParameter := by
  intro f hf hName
  rw [blockCollision?, Option.map_eq_none_iff, List.find?_eq_none] at h
  exact h f hf (decide_eq_true hName)

theorem no_context_of_no_collision (h : p.contextCollision? = none) (hAssociations : p.hasAssociations) :
    ∀ f ∈ p.fields, f.name ≠ associationsField := by
  intro f hf hName
  rw [contextCollision?, if_pos hAssociations, Option.map_eq_none_iff, List.find?_eq_none] at h
  exact h f hf (decide_eq_true hName)

end Plan

end RowFactory.Factory
