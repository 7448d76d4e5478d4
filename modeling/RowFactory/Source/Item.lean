import RowFactory.Code.Token

/-! # Items of a source file

What discovery needs to know of a file: which items there are, what they are called, and what attributes
they carry.
-/

namespace RowFactory.Source

/-- An attribute: the words of its path, and its arguments if they stand in brackets. -/
structure Attribute where
  path : List String
  arguments : Option (List Code.Token)
  deriving DecidableEq, Repr

inductive ItemKind where
  | struct
  | enumeration
  | function
  | module
  | constant
  | alias
  | trait
  | other
  deriving DecidableEq, Repr

inductive Item where
  /-- `contents` are the items of a module that is written in place. -/
  | mk (kind : ItemKind) (name : String) (attributes : List Attribute) (contents : List Item)
  deriving Repr

namespace Item

def kind : Item → ItemKind
  | .mk kind _ _ _ => kind

def name : Item → String
  | .mk _ name _ _ => name

def attributes : Item → List Attribute
  | .mk _ _ attributes _ => attributes

def contents : Item → List Item
  | .mk _ _ _ contents => contents

end Item

end RowFactory.Source
