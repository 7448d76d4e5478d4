import RowFactory.Code.Tree

/-! # Names of a unit

A unit can be used if each of its names means one thing. Two items of a module must not have one name, unless one is a
type and the other one a value. A variable must not have the name of a constant: it would stand for the constant. A
function of the module hides the variant of its name, so that nothing may stand for the variant any more.
-/

namespace RowFactory.Run

open Code

/-- Variants that every module sees by their names alone. -/
def variants : List String := ["Some", "None", "Ok", "Err"]

inductive Mention where
  | binds (name : String)
  | uses (name : String)
  deriving DecidableEq, Repr

end RowFactory.Run

namespace RowFactory.Code

open Run (Mention)

def Path.mentions : Path → List Mention
  | ⟨false, [⟨name, []⟩]⟩ => [.uses name.name]
  | _ => []

mutual

def Expr.mentions : Expr → List Mention
  | .path p => p.mentions
  | .text _ => []
  | .field base _ => base.mentions
  | .call callee arguments => callee.mentions ++ Expr.mentionsOfAll arguments
  | .method receiver _ _ arguments => receiver.mentions ++ Expr.mentionsOfAll arguments
  | .borrow target => target.mentions
  | .record _ fields _ => Expr.mentionsOfFields fields
  | .closure parameters _ body => parameters.map (.binds ·.name) ++ body.mentions
  | .assign target value => target.mentions ++ value.mentions

def Expr.mentionsOfAll : List Expr → List Mention
  | [] => []
  | e :: rest => e.mentions ++ Expr.mentionsOfAll rest

def Expr.mentionsOfFields : List (Ident × Expr) → List Mention
  | [] => []
  | (_, e) :: rest => e.mentions ++ Expr.mentionsOfFields rest

end

def Stmt.mentions : Stmt → List Mention
  | .bind _ name value => .binds name.name :: value.mentions
  | .run e | .give e => e.mentions
  | .each name value body => .binds name.name :: (value.mentions ++ Expr.mentionsOfAll body)

def Function.mentions (f : Function) : List Mention :=
  f.signature.parameters.map (.binds ·.1.name) ++ (f.body.getD []).flatMap Stmt.mentions

namespace Item

def typeName? : Item → Option String
  | .struct _ _ name _ _ | .trait _ name _ _ _ | .alias _ name _ | .module name _ | .declaration name => some name.name
  | .implementation _ _ _ _ | .function _ => none

/-- The constant that a struct without members is. -/
def unitName? : Item → Option String
  | .struct _ _ name _ none => some name.name
  | _ => none

def functionName? : Item → Option String
  | .function f => some f.signature.name.name
  | _ => none

def functions : Item → List Function
  | .function f => [f]
  | .trait _ _ _ _ functions | .implementation _ _ _ functions => functions
  | _ => []

end Item

end RowFactory.Code

namespace RowFactory.Run

open Code

def constants (items : List Item) : List String := variants ++ items.filterMap (·.unitName?)

def functionNames (items : List Item) : List String := items.filterMap (·.functionName?)

/-- A name stands for what it was meant to stand for. -/
def Mention.Clear (items : List Item) : Mention → Prop
  | .binds name => name ∉ constants items
  | .uses name => name ∈ variants → name ∉ functionNames items

instance (items : List Item) : (m : Mention) → Decidable (m.Clear items)
  | .binds name => inferInstanceAs (Decidable (name ∉ constants items))
  | .uses name => inferInstanceAs (Decidable (name ∈ variants → name ∉ functionNames items))

structure WellNamed (items : List Item) : Prop where
  types : (items.filterMap (·.typeName?)).Nodup
  values : (items.filterMap (·.unitName?) ++ functionNames items).Nodup
  mentions : ∀ f ∈ items.flatMap (·.functions), ∀ m ∈ f.mentions, m.Clear items

theorem wellNamed_iff {items : List Item} : WellNamed items ↔
    (items.filterMap (·.typeName?)).Nodup ∧ (items.filterMap (·.unitName?) ++ functionNames items).Nodup ∧
      ∀ f ∈ items.flatMap (·.functions), ∀ m ∈ f.mentions, m.Clear items :=
  ⟨fun h => ⟨h.types, h.values, h.mentions⟩, fun ⟨hTypes, hValues, hMentions⟩ => ⟨hTypes, hValues, hMentions⟩⟩

instance (items : List Item) : Decidable (WellNamed items) := decidable_of_iff _ wellNamed_iff.symm

end RowFactory.Run
