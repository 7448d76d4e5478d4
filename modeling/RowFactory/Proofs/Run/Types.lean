import Mathlib.Data.List.Induction
import RowFactory.Run.Types

/-! # Types that fit a pattern

Patterns that are made of names and tuples, as the targets of implementations are.
-/

namespace RowFactory.Run

open Code

namespace Substitution

attribute [local simp] apply applyAll

theorem apply_ofIdent (s : Substitution) (i : Ident) :
    s.apply (.ofIdent i) = (s.lookup i).getD (.ofIdent i) := rfl

theorem apply_ofPath (s : Substitution) (path : Path) :
    s.apply (.ofPath path) = (s.find? path).getD (.ofPath path) := by
  rw [Ty.ofPath, apply]

theorem apply_nil_ofPath (path : Path) : Substitution.apply [] (.ofPath path) = .ofPath path := by
  rw [apply_ofPath]
  unfold find?
  split <;> rfl

theorem apply_tuple (s : Substitution) (elements : List Ty) :
    s.apply (.tuple elements) = .tuple (s.applyAll elements) := by
  simp

theorem apply_unit (s : Substitution) : s.apply .unit = .unit := by
  simp [Ty.unit]

theorem applyAll_eq_map (s : Substitution) (types : List Ty) : s.applyAll types = types.map s.apply := by
  induction types with
  | nil => simp
  | cons type rest ih => simp [ih]

theorem apply_named (s : Substitution) (path : Path) (argument : Ty) :
    s.apply (.named path [argument]) = .named path [s.apply argument] := by
  simp

end Substitution

attribute [local simp] matchType matchTypes

theorem matchType_parameter {parameters : List Ident} {i : Ident} (h : i ∈ parameters) (type : Ty) :
    matchType parameters (.ofIdent i) type = some [(i, type)] := by
  rw [Ty.ofIdent, Ty.ofPath, matchType.eq_def]
  simp [h]

theorem matchType_ofIdent {parameters : List Ident} {i : Ident} (h : i ∉ parameters) (type : Ty) :
    matchType parameters (.ofIdent i) type ≠ none ↔ type = .ofIdent i := by
  rw [Ty.ofIdent, Ty.ofPath, matchType.eq_def]
  cases type with
  | named path arguments => cases arguments <;> simp [h, @eq_comm _ path]
  | tuple _ | reference _ _ | slice _ | satisfying _ _ | object _ | callOnce _ _ => simp [h]

theorem matchType_ofPath (path : Path) : matchType [] (.ofPath path) (.ofPath path) = some [] := by
  rw [Ty.ofPath, matchType.eq_def]
  dsimp only
  split <;> simp

theorem matchType_tuple (parameters : List Ident) (patterns types : List Ty) :
    matchType parameters (.tuple patterns) (.tuple types) = matchTypes parameters patterns types := by
  simp

theorem matchTypes_cons (parameters : List Ident) (pattern type : Ty) (patterns types : List Ty) :
    matchTypes parameters (pattern :: patterns) (type :: types) = (do
      let first ← matchType parameters pattern type
      let rest ← matchTypes parameters patterns types
      return first ++ rest) := by
  simp

theorem matchType_named (parameters : List Ident) (path : Path) (pattern type : Ty) :
    matchType parameters (.named path [pattern]) (.named path [type]) =
      matchType parameters pattern type := by
  rw [matchType, if_pos rfl, matchTypes_cons, matchTypes]
  · cases matchType parameters pattern type <;> simp
  · exact List.cons_ne_nil _ _

theorem matchTypes_parameters {parameters names : List Ident} (h : names ⊆ parameters) {types : List Ty}
    (hLength : names.length = types.length) :
    matchTypes parameters (names.map .ofIdent) types = some (names.zip types) := by
  induction names generalizing types with
  | nil =>
    cases types with
    | nil => rw [List.map_nil, matchTypes, List.zip_nil_left]
    | cons _ _ => cases hLength
  | cons name names ih =>
    cases types with
    | nil => cases hLength
    | cons type types =>
      obtain ⟨hName, hNames⟩ := List.cons_subset.mp h
      rw [List.map_cons, matchTypes_cons, matchType_parameter hName, ih hNames (Nat.succ.inj hLength)]
      rfl

theorem matchTypes_names (names : List Ident) (types : List Ty) :
    matchTypes [] (names.map .ofIdent) types ≠ none ↔ types = names.map .ofIdent := by
  induction names generalizing types with
  | nil => cases types <;> simp [matchTypes]
  | cons name names ih =>
    cases types with
    | nil => simp [matchTypes]
    | cons type types =>
      have hName := matchType_ofIdent (List.not_mem_nil (a := name)) type
      rw [List.map_cons, matchTypes_cons, List.cons.injEq, ← hName, ← ih]
      cases matchType [] (.ofIdent name) type with
      | none => simp
      | some first => cases matchTypes [] (names.map .ofIdent) types <;> simp

theorem matchType_tuple_named (parameters : List Ident) (patterns : List Ty) (path : Path)
    (arguments : List Ty) : matchType parameters (.tuple patterns) (.named path arguments) = none := by
  rw [matchType.eq_def]

end RowFactory.Run
