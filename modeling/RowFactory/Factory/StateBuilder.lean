import RowFactory.Factory.States

/-! # Builders that keep their state in their type

Every setter of a required field fills its slot; only a complete builder gives a record.
-/

namespace RowFactory.Factory

open Code

def phantomPath : Path := .ofNames true ["core", "marker", "PhantomData"]

namespace Plan

def builderIn (p : Plan) (state : Ty) : Ty := .named ⟨false, [⟨p.stateBuilder, []⟩]⟩ [state]

end Plan

def setterParameter (field : Field) : Ident × Ty :=
  ("value", .satisfying (.apply "Into" [.ofPath (valuePath field.kind)]) false)

def storeValue (field : Field) : Stmt :=
  .run (.assign (.field (.field .self "record") field.ident)
    (.call (.var "Some") [.method (.var "value") "into" [] []]))

def slotSetter (p : Plan) (slot : Nat) (field : Field) (marker : Ident) : Function :=
  { doc := p.doc s!"Set the required field `{field.name}`."
    exported := true
    signature :=
      { name := field.setter
        receiver := some .ownValue
        parameters := [setterParameter field]
        output := some (p.builderIn (p.stateWith slot marker)) }
    body := some [
      storeValue field,
      .give (.record (.ofIdent p.stateBuilder)
        [("record", .field .self "record"), ("state", .path phantomPath)] false)] }

def plainSetter (p : Plan) (field : Field) : Function :=
  { doc := p.doc s!"Set the optional field `{field.name}`."
    exported := true
    signature :=
      { name := field.setter
        receiver := some .ownValue
        parameters := [setterParameter field]
        output := some (.ofIdent "Self") }
    body := some [storeValue field, .give .self] }

/-- The setters of fields, of which the next one with a marker fills the given slot. -/
def setters (p : Plan) (slot : Nat) : List Field → List Function
  | [] => []
  | field :: rest =>
    match field.marker with
    | some marker => slotSetter p slot field marker :: setters p (slot + 1) rest
    | none => plainSetter p field :: setters p slot rest

def newFunction (p : Plan) : Function :=
  { doc := p.doc "Start a builder with no field set."
    exported := true
    signature := { name := "new", output := some (.ofIdent "Self") }
    body := some [.give (.record (.ofIdent "Self")
      [("record", .call (.names ["Default", "default"]) []), ("state", .path phantomPath)] false)] }

def defaultFunction : Function :=
  { signature := { name := "default", output := some (.ofIdent "Self") }
    body := some [.give (.call (.names ["Self", "new"]) [])] }

def buildFunction (p : Plan) : Function :=
  { doc := p.doc "Produce the record."
    exported := true
    signature := { name := "build", receiver := some .value, output := some (.ofPath p.record) }
    body := some [.give (.field .self "record")] }

def stateBuilderItems (p : Plan) : List Item :=
  [.struct
      (p.doc (s!"Type-state builder for `{p.table}` rows. `build` is available once every required " ++
        "field is set."))
      ["must_use"] p.stateBuilder [⟨"S", some (.ofIdent p.stateTrait)⟩]
      (some [⟨false, "record", .ofPath p.record⟩, ⟨false, "state", .named phantomPath [.ofIdent "S"]⟩]),
    .implementation none none (p.builderIn p.unsetState) [newFunction p],
    .implementation none (some (.ofIdent "Default")) (p.builderIn p.unsetState) [defaultFunction],
    .implementation (some p.slotParameters) none (p.builderIn p.openState) (setters p 0 p.fields),
    .implementation none none (p.builderIn (.ofIdent completeIdent)) [buildFunction p]]

def stateUnit (p : Plan) : List Item := stateItems p ++ stateBuilderItems p

end RowFactory.Factory
