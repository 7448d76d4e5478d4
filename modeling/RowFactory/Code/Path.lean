import RowFactory.Code.Grammar
import RowFactory.Error

/-! # Paths

A path is read from its text. Its segments may carry generic arguments, which are kept as tokens.
-/

namespace RowFactory.Code

namespace Segment

def tokens (s : Segment) : List Token := .word s.ident.text :: s.arguments

def text (s : Segment) : String := "".intercalate (s.tokens.map Token.text)

end Segment

namespace Path

def text (p : Path) : String :=
  (if p.leading then "::" else "") ++ "::".intercalate (p.segments.map Segment.text)

def ofIdent (i : Ident) : Path := ⟨false, [⟨i, []⟩]⟩

def ofNames (leading : Bool) (names : List String) : Path :=
  ⟨leading, names.map fun name => ⟨⟨name, false⟩, []⟩⟩

def append (p : Path) (names : List Ident) : Path :=
  { p with segments := p.segments ++ names.map fun i => ⟨i, []⟩ }

/-- The path that a text is, with nothing after it. -/
def parse? (text : String) : Option Path :=
  match lex text with
  | none => none
  | some tokens =>
    match Grammar.path (Grammar.fuelFor tokens) false tokens with
    | some (p, []) => some p
    | _ => none

def parse (text : String) : Except Error Path :=
  match parse? text with
  | some p => .ok p
  | none => .error (.invalidPath s!"'{text}': no path")

def ofType (moduleName typeName : String) : Except Error Path :=
  if moduleName.isEmpty then parse typeName else parse s!"{moduleName}::{typeName}"

end Path

end RowFactory.Code
