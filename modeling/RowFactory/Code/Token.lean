import RowFactory.Text.Quoted
import RowFactory.Text.IdentifierTable

/-! # Tokens of Rust code

A token list is flat: a bracketed group is an opening token, its contents and a closing token.
-/

namespace RowFactory.Code

inductive Delimiter where
  | parenthesis
  | bracket
  | brace
  deriving DecidableEq, Repr

inductive LiteralKind where
  /-- A text literal and the text that it stands for. -/
  | text (value : String)
  | other
  deriving DecidableEq, Repr

inductive Token where
  /-- A word, with its raw mark if it has one. -/
  | word (text : String)
  /-- One character of punctuation, and whether another one follows at once. -/
  | mark (symbol : Char) (joint : Bool)
  | literal (kind : LiteralKind) (text : String)
  | opening (delimiter : Delimiter)
  | closing (delimiter : Delimiter)
  deriving DecidableEq, Repr

namespace Delimiter

def openingSymbol : Delimiter → String
  | .parenthesis => "("
  | .bracket => "["
  | .brace => "\x7b"

def closingSymbol : Delimiter → String
  | .parenthesis => ")"
  | .bracket => "]"
  | .brace => "\x7d"

def ofOpening? : Char → Option Delimiter
  | '(' => some .parenthesis
  | '[' => some .bracket
  | '\x7b' => some .brace
  | _ => none

def ofClosing? : Char → Option Delimiter
  | ')' => some .parenthesis
  | ']' => some .bracket
  | '\x7d' => some .brace
  | _ => none

end Delimiter

def Token.text : Token → String
  | .word text => text
  | .mark symbol _ => symbol.toString
  | .literal _ text => text
  | .opening d => d.openingSymbol
  | .closing d => d.closingSymbol

def isWordStart (c : Char) : Bool :=
  if Text.isAscii c then c.isAlpha || c == '_' else Text.inRanges Text.identifierStartRanges c.toNat

def isWordRest (c : Char) : Bool :=
  if Text.isAscii c then c.isAlphanum || c == '_'
  else Text.inRanges Text.identifierContinueRanges c.toNat

def isWord : List Char → Bool
  | [] => false
  | c :: rest => isWordStart c && rest.all isWordRest

/-- Writes a control character that ends a text before an octal digit in full. -/
def quoteTail : List Char → List Char
  | [] => []
  | '\x00' :: c :: rest =>
    (if '0' ≤ c ∧ c ≤ '7' then ['\\', 'x', '0', '0'] else ['\\', '0']) ++ quoteTail (c :: rest)
  | c :: rest => Text.quoteChar c ++ quoteTail rest

def quoteText (text : String) : String := String.ofList ('"' :: quoteTail text.toList ++ ['"'])

end RowFactory.Code
