import Mathlib.Data.List.Nodup
import RowFactory.Factory.States
import RowFactory.Proofs.Factory.Plans

/-! # Slots of a builder

One slot for each required field, under names that nothing else has.
-/

namespace RowFactory.Factory

theorem slotIdent_injective {i j : Nat} (h : slotIdent i = slotIdent j) : i = j := by
  have hNames : "S" ++ toString i = "S" ++ toString j := congrArg (·.name) h
  have hDigits : Nat.toDigits 10 i = Nat.toDigits 10 j := by
    have h := congrArg String.toList hNames
    simpa [Nat.toString_eq_repr, Nat.repr] using h
  rw [← Nat.ofDigitChars_ten_toDigits (n := i), hDigits, Nat.ofDigitChars_ten_toDigits]

theorem nodup_slotIdents (n : Nat) : ((List.range n).map slotIdent).Nodup :=
  List.Nodup.map (fun _ _ => slotIdent_injective) List.nodup_range

theorem slotIdent_head (i : Nat) : (slotIdent i).name.toList.head? = some 'S' := by
  simp [slotIdent]

theorem slotIdent_ne_complete (i : Nat) : slotIdent i ≠ completeIdent := by
  intro h
  have hHead := slotIdent_head i
  rw [h] at hHead
  revert hHead
  decide

theorem slotIdent_ne_self (i : Nat) : slotIdent i ≠ "Self" := by
  intro h
  have hNames : "S" ++ toString i = "Self" := congrArg (·.name) h
  have hDigits : Nat.toDigits 10 i = ['e', 'l', 'f'] := by
    have h := congrArg String.toList hNames
    simpa [Nat.toString_eq_repr, Nat.repr] using h
  have hDigit := Nat.isDigit_of_mem_toDigits (by decide) (by decide) (hDigits ▸ List.mem_cons_self)
  revert hDigit
  decide

theorem markerOf_head (column : String) : (markerOf column).name.toList.head? = some 'W' := by
  rw [markerOf, String.toList_append]
  rfl

theorem markerOf_ne_slotIdent (column : String) (i : Nat) : markerOf column ≠ slotIdent i := by
  intro h
  have hHead := markerOf_head column
  rw [h, slotIdent_head] at hHead
  revert hHead
  decide

theorem markerOf_ne_self (column : String) : markerOf column ≠ "Self" := by
  intro h
  have hHead := markerOf_head column
  rw [h] at hHead
  revert hHead
  decide

namespace Plan

variable {p : Plan}

theorem Regular.length_markers (h : p.Regular) : p.markers.length = p.slots := by
  rw [h.markers, List.length_map, Plan.slots]

theorem Regular.map_name_slotParameters (h : p.Regular) :
    p.slotParameters.map (·.name) = (List.range p.slots).map slotIdent := by
  apply List.ext_getElem
  · simp [Plan.slotParameters, h.length_markers]
  · intro i h₁ h₂
    simp [Plan.slotParameters]

end Plan

end RowFactory.Factory
