import RowFactory.Factory.BlockBuilder

/-! # Association methods

For each reference of a table, a method of the association context that builds the referenced row and
keeps it under the name of the column.
-/

namespace RowFactory.Factory

open Code

def associationSignature (a : Association) : Signature :=
  { name := a.method
    receiver := some .reference
    parameters := [("block", .satisfying (.callOnce [] (some (.ofPath a.record))) false)] }

/-- The trait of the methods and its implementation; a table without references has none. -/
def associationItems (p : Plan) : List Item :=
  match p.associations with
  | [] => []
  | associations =>
    [.trait (p.doc s!"Foreign key associations of `{p.table}`, available inside `associate`.")
        p.associationsTrait [] []
        (associations.map fun a =>
          { doc := p.doc s!"Build the referenced row for `{a.field}` and remember it for `build`."
            signature := associationSignature a
            body := none }),
      .implementation none (some (.ofIdent p.associationsTrait)) p.contextTy
        (associations.map fun a =>
          { signature := associationSignature a
            body := some [
              .run (.method .self "associate_with_persist" [] [.text a.field, .var "block"])] })]

def blockUnit (p : Plan) : List Item := blockBuilderItems p ++ factoryItems p ++ associationItems p

end RowFactory.Factory
