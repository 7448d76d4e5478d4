import RowFactory.Code.Token
import RowFactory.Error

/-! # Identifiers

A name of ASCII letters, digits and underscores is an identifier; a keyword becomes one by its raw mark.
Five words are no identifiers even so.
-/

namespace RowFactory.Code

def keywords : List String :=
  ["abstract", "as", "async", "await", "become", "box", "break", "const", "continue", "crate", "do",
    "dyn", "else", "enum", "extern", "false", "final", "fn", "for", "if", "impl", "in", "let", "loop",
    "macro", "match", "mod", "move", "mut", "override", "priv", "pub", "ref", "return", "Self", "self",
    "static", "struct", "super", "trait", "true", "try", "type", "typeof", "unsafe", "unsized", "use",
    "virtual", "where", "while", "yield"]

/-- Words that no raw mark makes a name. -/
def unnameable : List String := ["", "_", "self", "Self", "super", "crate"]

def pathKeywords : List String := ["self", "Self", "super", "crate", "try"]

structure Ident where
  name : String
  raw : Bool := false
  deriving DecidableEq, Repr

namespace Ident

def text (i : Ident) : String := if i.raw then "r#" ++ i.name else i.name

instance : Coe String Ident := ⟨fun name => ⟨name, false⟩⟩

/-- Written as it is, the identifier is read as a name. -/
def isName (i : Ident) : Bool :=
  isWord i.name.toList && !unnameable.contains i.name && (i.raw || !keywords.contains i.name)

def standsInPath (i : Ident) : Bool := i.isName || !i.raw && pathKeywords.contains i.name

end Ident

def isAsciiWordStart (c : Char) : Bool := c.isAlpha || c == '_'

def isAsciiWordRest (c : Char) : Bool := c.isAlphanum || c == '_'

def isPlainName : List Char → Bool
  | [] => false
  | c :: rest => isAsciiWordStart c && rest.all isAsciiWordRest

def Ident.ofName? (name : String) : Option Ident :=
  if unnameable.contains name then none
  else if isPlainName name.toList then some ⟨name, keywords.contains name⟩
  else none

def ident (table name : String) : Except Error Ident :=
  match Ident.ofName? name with
  | some i => .ok i
  | none => .error (.invalidIdentifier table name)

end RowFactory.Code
