import RowFactory.Code.Tree
import RowFactory.Factory.Plan

/-! # Fill states

The state of a builder is a tuple with one slot for each required field: the field's marker once the
field has been set, and the empty tuple before.
-/

namespace RowFactory.Factory

open Code

namespace Plan

def doc (p : Plan) (text : String) : Option String := if p.docs then some text else none

def slots (p : Plan) : Nat := p.requiredFields.length

end Plan

def slotIdent (index : Nat) : Ident := ⟨"S" ++ toString index, false⟩

/-- The trait of everything that may fill the slot of a marker. -/
def slotTrait (marker : Ident) : Ty := .named (.ofNames false ["sealed", "Slot"]) [.ofIdent marker]

namespace Plan

def slotParameters (p : Plan) : List TypeParameter :=
  p.markers.mapIdx fun i marker => ⟨slotIdent i, some (slotTrait marker)⟩

/-- The state that leaves every slot open. -/
def openState (p : Plan) : Ty := .tuple ((List.range p.slots).map fun i => .ofIdent (slotIdent i))

def unsetState (p : Plan) : Ty := .tuple (List.replicate p.slots .unit)

def stateWith (p : Plan) (index : Nat) (marker : Ident) : Ty :=
  .tuple ((List.range p.slots).map fun i => .ofIdent (if i = index then marker else slotIdent i))

end Plan

def completeIdent : Ident := "Complete"

def outerMarker (marker : Ident) : Ty := .ofPath ⟨false, [⟨"super", []⟩, ⟨marker, []⟩]⟩

/-- What only the tuples of a builder's own markers implement. -/
def sealedItems (p : Plan) : List Item :=
  let base := [Item.trait none "Sealed" [] [] []]
  match p.markers with
  | [] => base
  | markers =>
    base ++
      [.trait none "Slot" [⟨"M", none⟩] [] [],
        .implementation (some [⟨"M", none⟩]) (some (.apply "Slot" [.ofIdent "M"])) .unit []] ++
      markers.map fun marker =>
        .implementation none (some (.apply "Slot" [outerMarker marker])) (outerMarker marker) []

def markerItem (p : Plan) (field : Field) : Option Item :=
  field.marker.map fun marker =>
    .struct (p.doc s!"`{field.name}` has been set.") ["derive(Debug, Clone, Copy, Default)"] marker [] none

def stateItems (p : Plan) : List Item :=
  let isSealed : Ty := .ofPath (.ofNames false ["sealed", "Sealed"])
  [.module "sealed" (sealedItems p),
    .trait
      (p.doc (s!"Fill state of a `{p.table}` builder. Only the tuples built from this module's markers " ++
        "implement it."))
      p.stateTrait [] [isSealed] []] ++
    p.requiredFields.filterMap (markerItem p) ++
    [.alias (p.doc "State in which every required field has been set.") completeIdent
        (.tuple (p.markers.map .ofIdent)),
      .implementation (some p.slotParameters) (some isSealed) p.openState [],
      .implementation (some p.slotParameters) (some (.ofIdent p.stateTrait)) p.openState []]

end RowFactory.Factory
