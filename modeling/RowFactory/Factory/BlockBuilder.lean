import RowFactory.Code.Tree
import RowFactory.Factory.States

/-! # Builders that a block configures

A factory function takes the fields that a row cannot do without and hands the builder to a block. A
reference that the block leaves unset is taken from the row associated with its column.
-/

namespace RowFactory.Factory

open Code

namespace Plan

def constructorParameters (p : Plan) : List (Ident × Ty) :=
  p.constructorFields.map fun f =>
    (f.ident, .satisfying (.apply "Into" [.ofPath (valuePath f.kind)]) false)

def constructorArguments (p : Plan) : List Expr := p.constructorFields.map fun f => .var f.ident

def contextPath (p : Plan) : Path := p.runtime.append [contextType]

def contextTy (p : Plan) : Ty := .named p.contextPath [.ofPath p.record]

def runtimeTrait (p : Plan) (name : Ident) (arguments : List Ty) : Ty :=
  .named (p.runtime.append [name]) arguments

end Plan

def blockMember (field : Field) : Member :=
  let type := Ty.ofPath (valuePath field.kind)
  ⟨true, field.ident, if field.inConstructor then type else .apply "Option" [type]⟩

def initialValue (field : Field) : Ident × Expr :=
  (field.ident,
    if field.inConstructor then .method (.var field.ident) "into" [] [] else .var "None")

/-- The builder's own value, or else the key of the associated row. -/
def keyLocal (field : Field) (association : Association) : Stmt :=
  .bind false field.ident
    (.method (.field .self field.ident) "or_else" [] [
      .closure [] true
        (.method
          (.method (.field .self associationsField) "get" [.ofPath association.record]
            [.text association.field])
          "and_then" [] [.closure ["associated"] false (.field (.var "associated") "id")])])

def keyLocal? (p : Plan) (field : Field) : Option Stmt :=
  (p.association? field.name).map (keyLocal field)

def recordValue (p : Plan) (field : Field) : Ident × Expr :=
  (field.ident,
    if (p.association? field.name).isSome then .var field.ident
    else if field.inConstructor then .call (.var "Some") [.field .self field.ident]
    else .field .self field.ident)

def buildBody (p : Plan) : List Stmt :=
  p.fields.filterMap (keyLocal? p) ++ [.give (.record p.record (p.fields.map (recordValue p)) true)]

def selfReference : Ty := .reference true (.ofIdent "Self")

def associateFunctions (p : Plan) : List Function :=
  [{ doc := p.doc "Configure associated rows. Foreign keys left unset are taken from their `id`."
     exported := true
     signature :=
       { name := "associate"
         receiver := some .reference
         parameters :=
           [("block", .satisfying (.callOnce [.reference true p.contextTy] none) false)]
         output := some selfReference }
     body := some [
       .run (.call (.var "block") [.borrow (.field .self associationsField)]), .give .self] },
   { doc := p.doc "Persist associated rows, including those configured before this call."
     exported := true
     signature :=
       { name := "persist_with"
         receiver := some .reference
         parameters := [("persister", .satisfying (p.runtimeTrait "Persist" []) true)]
         output := some selfReference }
     body := some [
       .run (.method (.field .self associationsField) "set_persister" [] [.var "persister"]),
       .give .self] }]

def traitFunctions (p : Plan) : List Function :=
  let configuration := p.runtimeTrait "DslTrait" [.ofIdent "Self"]
  let apply := Expr.method (.var "dsl_trait") "apply" [] [.self]
  [{ doc := p.doc "Apply a reusable configuration."
     exported := true
     signature :=
       { name := "apply_trait"
         receiver := some .reference
         parameters := [("dsl_trait", .reference false (.satisfying configuration false))]
         output := some selfReference }
     body := some [.run apply, .give .self] },
   { doc := p.doc "Apply several configurations in order."
     exported := true
     signature :=
       { name := "apply_traits"
         receiver := some .reference
         parameters :=
           [("traits", .reference false (.slice (.reference false (.object configuration))))]
         output := some selfReference }
     body := some [.each "dsl_trait" (.var "traits") [apply], .give .self] }]

def blockBuilderItems (p : Plan) : List Item :=
  let members := p.fields.map blockMember
  let values := p.fields.map initialValue
  let contextMembers := if p.hasAssociations then [⟨false, associationsField, p.contextTy⟩] else []
  let contextValues : List (Ident × Expr) :=
    if p.hasAssociations then
      [(associationsField, .call (.path (p.contextPath.append ["new"])) [])]
    else []
  [.struct (p.doc s!"DSL builder for `{p.table}` rows.") ["derive(Debug)"] p.blockBuilder []
      (some (members ++ contextMembers)),
    .implementation none none (.ofIdent p.blockBuilder)
      ([{ doc := p.doc "Start a builder from the required non-key fields."
          exported := true
          signature :=
            { name := "new", parameters := p.constructorParameters, output := some (.ofIdent "Self") }
          body := some [.give (.record (.ofIdent "Self") (values ++ contextValues) false)] }] ++
        (if p.hasAssociations then associateFunctions p else []) ++ traitFunctions p ++
        [{ doc := p.doc "Produce the record."
           exported := true
           signature :=
             { name := "build", receiver := some .value, output := some (.ofPath p.record) }
           body := some (buildBody p) }])]

def factoryItems (p : Plan) : List Item :=
  let record := Ty.ofPath p.record
  let start := Expr.call (.names [p.blockBuilder, "new"]) p.constructorArguments
  let block : Ident × Ty :=
    (blockParameter, .satisfying (.callOnce [.reference true (.ofIdent p.blockBuilder)] none) false)
  [.function
      { doc := p.doc s!"Build a `{p.table}` row with default settings."
        exported := true
        signature :=
          { name := p.factory, parameters := p.constructorParameters, output := some record }
        body := some [.give (.method start "build" [] [])] },
    .function
      { doc := p.doc s!"Build a `{p.table}` row, configuring the builder in `block` first."
        exported := true
        signature :=
          { name := p.factoryWith
            parameters := p.constructorParameters ++ [block]
            output := some record }
        body := some [
          .bind true "builder" start,
          .run (.call (.var blockParameter) [.borrow (.var "builder")]),
          .give (.method (.var "builder") "build" [] [])] }]

end RowFactory.Factory
