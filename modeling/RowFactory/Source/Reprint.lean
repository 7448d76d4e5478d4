import RowFactory.Source.Marker

/-! # Items that come back as they were

An item that has been taken apart is put together again from whole symbols: the marks of one symbol stand
together, and marks of different symbols stand apart. So an item comes back as it was if no two of its
symbols touch. The arguments of attributes and macros are not taken apart.
-/

namespace RowFactory.Source

open Code Code.Grammar

def longSymbols : List String :=
  ["&&", "||", "<<", ">>", "+=", "-=", "*=", "/=", "%=", "^=", "&=", "|=", "<<=", ">>=", "==", "!=",
    "<=", ">=", "=>", "->", "::", "..", "...", "..="]

/-- Marks that touch, from the first one on, and the rest. -/
def markRun : Tokens → List Char × Tokens
  | .mark s true :: rest =>
    match rest with
    | .mark .. :: _ =>
      let (run, rest) := markRun rest
      (s :: run, rest)
    | _ => ([s], rest)
  | .mark s false :: rest => ([s], rest)
  | tokens => ([], tokens)

def wordsBeforeValues : List String :=
  ["return", "in", "if", "match", "move", "mut", "else", "break", "while"]

/-- A value may end with this token. -/
def endsValue : Option Token → Bool
  | some (.word w) => !wordsBeforeValues.contains w
  | some (.literal ..) => true
  | some (.closing _) => true
  | some (.mark '?' _) => true
  | _ => false

/-- The marks are one symbol after the given token. `angles` counts the open angle brackets. -/
def isOneSymbol (before : Option Token) (angles : Nat) (run : List Char) : Bool :=
  match run with
  | [_] => true
  | ['|', '|'] => endsValue before
  | ['&', '&'] => endsValue before
  | ['>', '>'] => angles < 2
  | _ => longSymbols.contains (String.ofList run)

/-- A list of nothing that is not written again. -/
def isDropped (before : Option Token) (tokens : Tokens) : Bool :=
  match tokens with
  | .mark '<' _ :: .mark '>' _ :: _ =>
    match before with
    | some (.word _) => true
    | _ => false
  | .word "where" :: .opening .brace :: _ => true
  | .word "where" :: .mark ';' _ :: _ => true
  | _ => false

def skipArguments (before : Option Token) (tokens : Tokens) : Option Tokens :=
  match before, tokens with
  | some (.mark '#' _), .opening .bracket :: _ =>
    match group? .bracket tokens with
    | some (inner, rest) =>
      match Grammar.attributeContent inner with
      | some ⟨_, some _⟩ => some rest
      | _ => none
    | none => none
  | some (.word _), .mark '!' false :: rest =>
    match rest with
    | .word _ :: after => (anyGroup? after).map (·.2.2)
    | _ => (anyGroup? rest).map (·.2.2)
  | _, _ => none

def symbolsApart : Nat → Option Token → Nat → Tokens → Bool
  | 0, _, _, _ => false
  | fuel + 1, before, angles, tokens =>
    match skipArguments before tokens with
    | some rest => symbolsApart fuel (some (.closing .bracket)) angles rest
    | none =>
      match tokens with
      | [] => true
      | .mark s joint :: _ =>
        let (run, rest) := markRun tokens
        let angles :=
          match run with
          | ['<'] => angles + 1
          | ['>'] => angles - 1
          | [';'] => 0
          | _ => angles
        !isDropped before tokens && isOneSymbol before angles run &&
          symbolsApart fuel (some (.mark (run.getLast?.getD s) joint)) angles rest
      | token :: rest => !isDropped before tokens && symbolsApart fuel (some token) angles rest

/-- The item comes back as it was. -/
def isReprinted (kept : Bool) (tokens : Tokens) : Bool :=
  kept || symbolsApart (tokens.length + 1) none 0 tokens

end RowFactory.Source
