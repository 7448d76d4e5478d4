import RowFactory.Code.Tree
import RowFactory.Layout.Piece

/-! # Printing trees -/

namespace RowFactory.Code

open Layout Layout.Piece

/-! ## Tokens of generic arguments -/

def areApart : Token → Token → Bool
  | .word _, .word _ => true
  | .mark '+' _, _ => true
  | _, .mark '+' _ => true
  | .mark '=' _, _ => true
  | _, .mark '=' _ => true
  | .mark ',' _, _ => true
  | .mark ';' _, _ => true
  | .mark ':' false, .word _ => true
  | _, _ => false

/-- The pieces of generic arguments after their opening bracket, and the tokens after the closing one. -/
def argumentPieces (fuel : Nat) (tokens : List Token) : List Piece × List Token :=
  match fuel with
  | 0 => ([], [])
  | fuel + 1 =>
    let enter (rest : List Token) : List Piece × List Token :=
      let (inner, rest) := argumentPieces fuel rest
      let (more, rest) := argumentPieces fuel rest
      (.word "<" :: even indentation (gap :: inner) ++ .word ">" :: more, rest)
    match tokens with
    | [] => ([], [])
    | .mark '>' _ :: rest => ([lastComma (-indentation)], rest)
    | .mark ',' _ :: .mark '>' _ :: rest => ([lastComma (-indentation)], rest)
    | .mark ',' _ :: rest =>
      let (more, rest) := argumentPieces fuel rest
      (.word "," :: space :: more, rest)
    | .mark '-' _ :: .mark '>' _ :: rest =>
      let (more, rest) := argumentPieces fuel rest
      (.word " -> " :: more, rest)
    | .mark '<' _ :: .mark '>' _ :: rest => argumentPieces fuel rest
    | .mark ':' true :: .mark ':' _ :: .mark '<' _ :: rest => enter rest
    | .mark '<' _ :: rest => enter rest
    | token :: rest =>
      let apart := (rest.head?.map (areApart token)).getD false
      let (more, rest) := argumentPieces fuel rest
      (.word (token.text ++ if apart then " " else "") :: more, rest)

def segmentPieces (inExpression : Bool) (s : Segment) : List Piece :=
  let inside :=
    match s.arguments with
    | .mark ':' _ :: .mark ':' _ :: .mark '<' _ :: rest => rest
    | .mark '<' _ :: rest => rest
    | _ => []
  match inside with
  | [] => [.word s.ident.text]
  | [_] => [.word s.ident.text]
  | _ =>
    let (inner, _) := argumentPieces (inside.length + 1) inside
    .word s.ident.text :: (if inExpression then [.word "::"] else []) ++
      .word "<" :: even indentation (gap :: inner) ++ [.word ">"]

def pathPieces (inExpression : Bool) (p : Path) : List Piece :=
  let rec go : List Segment → List Piece
    | [] => []
    | [s] => segmentPieces inExpression s
    | s :: rest => segmentPieces inExpression s ++ .word "::" :: go rest
  (if p.leading then [.word "::"] else []) ++ go p.segments

/-! ## Lists with commas -/

/-- Parts with commas between them, after a place at which the line may end. -/
def listed (offset : Int) : List (List Piece) → List Piece
  | [] => []
  | [last] => last ++ [lastComma offset]
  | part :: rest => part ++ .word "," :: space :: listed offset rest

def enclosed (parts : List (List Piece)) : List Piece :=
  match parts with
  | [] => []
  | _ => even indentation (gap :: listed (-indentation) parts)

/-! ## Types -/

mutual

def Ty.pieces : Ty → List Piece
  | .named path [] => pathPieces false path
  | .named path arguments =>
    pathPieces false path ++ .word "<" :: enclosed (Ty.piecesOfAll arguments) ++ [.word ">"]
  | .tuple elements =>
    match Ty.piecesOfAll elements with
    | [only] =>
      .word "(" :: even indentation (gap :: only ++ [.word ",", gap (-indentation)]) ++ [.word ")"]
    | parts => .word "(" :: enclosed parts ++ [.word ")"]
  | .reference mutable target => .word (if mutable then "&mut " else "&") :: target.pieces
  | .slice element => .word "[" :: element.pieces ++ [.word "]"]
  | .satisfying bound owned =>
    .word "impl " :: bound.pieces ++ if owned then [.word " + ", .word "'static"] else []
  | .object bound => .word "dyn " :: bound.pieces
  | .callOnce inputs output =>
    let parts :=
      match Ty.piecesOfAll inputs with
      | [] => [gap (-indentation)]
      | parts => gap :: listed (-indentation) parts
    .word "FnOnce" ::
      even indentation (.word "(" :: parts ++ .word ")" :: Ty.outputPieces output)

def Ty.piecesOfAll : List Ty → List (List Piece)
  | [] => []
  | t :: rest => t.pieces :: Ty.piecesOfAll rest

def Ty.outputPieces : Option Ty → List Piece
  | none => []
  | some t => .word " -> " :: t.pieces

end

def TypeParameter.pieces (p : TypeParameter) : List Piece :=
  .word p.name.text ::
    match p.bound with
    | none => []
    | some bound => filled indentation (.word ": " :: bound.pieces)

def parameterPieces (parameters : List TypeParameter) : List Piece :=
  match parameters with
  | [] => []
  | _ =>
    .word "<" :: even 0 (gap :: listed (-indentation) (parameters.map TypeParameter.pieces)) ++
      [.word ">"]

/-! ## Expressions -/

/-- Where an expression stands: on its own, at the start of a line, or as the first part of another one,
which may itself stand at the start of a line. -/
inductive Role where
  | whole
  | lineStart
  | first (atLineStart : Bool)
  deriving DecidableEq, Repr

namespace Role

def atLineStart : Role → Bool
  | .whole => false
  | .lineStart => true
  | .first b => b

/-- Parts of a chain stand within its group. -/
def chain (role : Role) (pieces : List Piece) : List Piece :=
  match role with
  | .first _ => pieces
  | _ => even indentation pieces

/-- What is no chain has a group of its own within one. -/
def simple (role : Role) (pieces : List Piece) : List Piece :=
  match role with
  | .first _ => even (-indentation) pieces
  | _ => pieces

end Role

def isShort (e : Expr) : Bool :=
  match e.var? with
  | some name => name.text.utf8ByteSize ≤ indentation
  | none => false

def isBlocklike : Expr → Bool
  | .record .. => true
  | .closure .. => true
  | _ => false

/-- The line may end before the point of a chain, unless a short name begins the line. -/
def chainGap (role : Role) (first : Expr) : List Piece :=
  if role.atLineStart && isShort first then [] else [gap]

mutual

def Expr.pieces (role : Role) : Expr → List Piece
  | .path p => role.simple (pathPieces true p)
  | .text value => role.simple [.word (quoteText value)]
  | .field base member =>
    role.chain
      (base.pieces (.first role.atLineStart) ++ chainGap role base ++ [.word ".", .word member.text])
  | .call callee arguments =>
    let callee :=
      match role with
      | .first _ => callee.pieces (.first false)
      | role => callee.pieces role
    callee ++ .word "(" :: Expr.argumentPieces arguments ++ [.word ")"]
  | .method receiver name types arguments =>
    let turbofish :=
      match types with
      | [] => []
      | _ => .word "::" :: .word "<" :: enclosed (Ty.piecesOfAll types) ++ [.word ">"]
    let offset := if role = .lineStart && isShort receiver then -indentation else 0
    role.chain
      (receiver.pieces (.first role.atLineStart) ++ chainGap role receiver ++
        .word "." :: .word name.text :: turbofish ++
        even offset (.word "(" :: Expr.argumentPieces arguments ++ [.word ")"]))
  | .borrow target => role.simple (.word "&mut " :: target.pieces .whole)
  | .record p fields filledUp =>
    let rest :=
      if filledUp then
        [.word "..", .word "Default", .word "::", .word "default", .word "(", .word ")", space]
      else []
    role.simple
      (evenWithin 34 indentation
        (filled (-indentation) (pathPieces true p) ++ .word " \x7b" :: spaceInside ::
          dedent (Expr.fieldPieces filledUp fields ++ rest)) ++ [.word "\x7d"])
  | .closure parameters braced body =>
    let inputs := parameters.map fun name => [Piece.word name.text]
    let head :=
      .word "|" :: (if inputs.isEmpty then [] else gap :: inputs.flatten) ++
        [.word "|", space (-indentation)]
    let block :=
      if braced then
        even indentation
          (.word "\x7b" :: space :: filled 0 (body.pieces .lineStart) ++
            [space (-indentation), .word "\x7d"])
      else
        even indentation
          (.place { before := "\x7b" } :: body.pieces .whole ++
            [.place { offset := -indentation, after := "\x7d" }])
    role.simple (even indentation head ++ joint :: block)
  | .assign target value =>
    role.simple (filled 0 (target.pieces .whole ++ .word " = " :: joint :: value.pieces .whole))

def Expr.argumentPieces : List Expr → List Piece
  | [] => []
  | [e] => if isBlocklike e then e.pieces .whole else enclosed [e.pieces .whole]
  | e :: rest => enclosed (e.pieces .whole :: Expr.piecesOfAll rest)

def Expr.piecesOfAll : List Expr → List (List Piece)
  | [] => []
  | e :: rest => e.pieces .whole :: Expr.piecesOfAll rest

/-- The fields of a record. Before the fields that are not listed, one that has the name of its value is written
once. -/
def Expr.fieldPieces (followed : Bool) : List (Ident × Expr) → List Piece
  | [] => []
  | (name, value) :: rest =>
    let comma := if rest.isEmpty && !followed then [lastComma 0 1] else [.word ",", space]
    .word name.text ::
      (if followed && value.var? = some name then [] else .word ": " :: filled 0 (value.pieces .whole)) ++
      comma ++ Expr.fieldPieces followed rest

end

/-! ## Statements and functions -/

def runPieces (e : Expr) : List Piece := filled 0 (e.pieces .lineStart ++ [.word ";"]) ++ [newLine]

def Stmt.pieces : Stmt → List Piece
  | .bind mutable name value =>
    filled 0
      ([.word "let ", .word (if mutable then "mut " else ""), .word name.text, .word " = ", joint] ++
        value.pieces .whole ++ [.word ";"]) ++ [newLine]
  | .run e => runPieces e
  | .each name value body =>
    filled 0
      ([.word "for ", .word name.text, .word " in ", joint] ++
        even 0 (value.pieces .whole ++ [.word " "]) ++ [.word "\x7b", joint] ++
        even indentation (dedent (newLineInside :: body.flatMap runPieces)) ++ [.word "\x7d"]) ++ [newLine]
  | .give e => filled 0 (e.pieces .lineStart) ++ [newLine]

def Receiver.text : Receiver → String
  | .value => "self"
  | .ownValue => "mut self"
  | .reference => "&mut self"

def Signature.pieces (s : Signature) : List Piece :=
  let receiver := (s.receiver.map fun r => [Piece.word r.text]).toList
  let parameters := s.parameters.map fun (name, type) =>
    .word name.text :: .word ": " :: type.pieces
  let inputs :=
    match receiver ++ parameters with
    | [] => []
    | parts => even 0 (gap :: listed (-indentation) parts)
  [.word "fn ", .word s.name.text, .word "(", joint] ++ inputs ++ .word ")" ::
    even (-indentation) (Ty.outputPieces s.output)

def isBalanced (depth : Nat) : List Char → Bool
  | [] => depth = 0
  | '/' :: '*' :: rest => isBalanced (depth + 1) rest
  | '*' :: '/' :: rest =>
    match depth with
    | 0 => false
    | depth + 1 => isBalanced depth rest
  | _ :: rest => isBalanced depth rest

def dropEndBlanks (line : List Char) : List Char := (line.reverse.dropWhile (· = ' ')).reverse

def linesOf (line : List Char) : List Char → List (List Char)
  | [] => [line.reverse]
  | '\n' :: rest => line.reverse :: linesOf [] rest
  | c :: rest => linesOf (c :: line) rest

/-- No blanks at the end of any line but the last. -/
def tidyLines : List (List Char) → List Char
  | [] => []
  | [last] => last
  | line :: rest => dropEndBlanks line ++ '\n' :: tidyLines rest

/-- Documentation: a line of it, a block, or an attribute where neither will do. -/
def docPieces (doc : Option String) : List Piece :=
  match doc with
  | none => []
  | some text =>
    let chars := ' ' :: text.toList
    if !chars.contains '\n' then
      [.word (String.ofList ('/' :: '/' :: '/' :: dropEndBlanks chars)), newLine]
    else if isBalanced 0 chars then
      [.word (String.ofList ('/' :: '*' :: '*' :: tidyLines (linesOf [] chars) ++ ['*', '/'])), newLine]
    else [.word ("#[doc = " ++ quoteText (String.ofList chars) ++ "]"), space]

def attributePieces (attributes : List String) : List Piece :=
  attributes.flatMap fun a => [.word "#[", .word a, .word "]", space]

def exportPieces (exported : Bool) : List Piece := if exported then [.word "pub "] else []

/-- A group of lines in braces, after its head. -/
def braced (head : List Piece) (inner : List Piece) : List Piece :=
  even indentation (dedent (head ++ .word "\x7b" :: newLineInside :: inner)) ++ [.word "\x7d", newLine]

def Function.pieces (f : Function) : List Piece :=
  docPieces f.doc ++
    match f.body with
    | some body =>
      braced (exportPieces f.exported ++ f.signature.pieces ++ [.word " "]) (body.flatMap Stmt.pieces)
    | none => even indentation (exportPieces f.exported ++ f.signature.pieces ++ [.word ";"]) ++ [newLine]

/-! ## Items -/

def parentPieces : List Ty → List Piece
  | [] => []
  | first :: rest =>
    .word ": " :: first.pieces ++ rest.flatMap fun parent => .word " + " :: parent.pieces

def Member.pieces (m : Member) : List Piece :=
  exportPieces m.exported ++ .word m.name.text :: .word ": " :: m.type.pieces ++ [.word ",", newLine]

mutual

def Item.pieces : Item → List Piece
  | .struct doc attributes name parameters members =>
    let head := [.word "pub ", .word "struct ", .word name.text] ++ parameterPieces parameters
    docPieces doc ++ attributePieces attributes ++
      match members with
      | some members => braced (head ++ [.word " "]) (members.flatMap Member.pieces)
      | none => even indentation (head ++ [.word ";"]) ++ [newLine]
  | .trait doc name parameters parents functions =>
    docPieces doc ++
      braced
        ([.word "pub ", .word "trait ", .word name.text] ++ parameterPieces parameters ++
          parentPieces parents ++ [.word " "])
        (functions.flatMap Function.pieces)
  | .implementation parameters implemented target functions =>
    let traitPieces :=
      match implemented with
      | some t => t.pieces ++ [space, .word "for "]
      | none => []
    braced
      (filled (-indentation)
        (even indentation (.word "impl" :: parameterPieces (parameters.getD [])) ++ .word " " :: traitPieces ++
          target.pieces) ++ [.word " "])
      (functions.flatMap Function.pieces)
  | .alias doc name target =>
    docPieces doc ++
      even indentation
        ([.word "pub ", .word "type ", .word name.text, .word " ", .word "= ", joint] ++
          filled (-indentation) target.pieces ++ [.word ";"]) ++ [newLine]
  | .function f => f.pieces
  | .module name items => braced [.word "mod ", .word name.text, .word " "] (Item.piecesOfAll items)
  | .declaration name =>
    even indentation [.word "pub ", .word "mod ", .word name.text, .word ";"] ++ [newLine]

def Item.piecesOfAll : List Item → List Piece
  | [] => []
  | item :: rest => item.pieces ++ Item.piecesOfAll rest

end

end RowFactory.Code
