import RowFactory.Code.Path
import RowFactory.Code.Tree

/-! # Trees as tokens

The tokens that a tree is made of, before they are laid out on lines. Documentation is an attribute among them. The
parts of a tuple, the members of a type and the fields of a record all end in a comma; other lists have commas
between their parts. Angle brackets stand around at least one part, but for those of an implementation.
-/

namespace RowFactory.Code

/-- Marks that follow one another at once. -/
def marks : List Char → List Token
  | [] => []
  | [c] => [.mark c false]
  | c :: d :: rest => .mark c true :: marks (d :: rest)

def separator : List Token := marks [':', ':']

def comma : List Token := [.mark ',' false]

def grouped (d : Delimiter) (inner : List Token) : List Token := .opening d :: (inner ++ [.closing d])

def commaBetween (parts : List (List Token)) : List Token := comma.intercalate parts

def commaAfter (parts : List (List Token)) : List Token := parts.flatMap (· ++ comma)

def angled (parts : List (List Token)) : List Token :=
  .mark '<' false :: (commaBetween parts ++ [.mark '>' false])

def inAngles (parts : List (List Token)) : List Token :=
  match parts with
  | [] => []
  | _ => angled parts

def Path.tokens (p : Path) : List Token :=
  (if p.leading then separator else []) ++ separator.intercalate (p.segments.map Segment.tokens)

mutual

def Ty.tokens : Ty → List Token
  | .named path arguments => path.tokens ++ inAngles (Ty.tokensOfAll arguments)
  | .tuple elements => grouped .parenthesis (commaAfter (Ty.tokensOfAll elements))
  | .reference mutable target => .mark '&' false :: ((if mutable then [.word "mut"] else []) ++ target.tokens)
  | .slice element => grouped .bracket element.tokens
  | .satisfying bound owned =>
    .word "impl" :: (bound.tokens ++ if owned then [.mark '+' false, .mark '\'' true, .word "static"] else [])
  | .object bound => .word "dyn" :: bound.tokens
  | .callOnce inputs output =>
    .word "FnOnce" :: (grouped .parenthesis (commaBetween (Ty.tokensOfAll inputs)) ++ Ty.outputTokens output)

def Ty.tokensOfAll : List Ty → List (List Token)
  | [] => []
  | t :: rest => t.tokens :: Ty.tokensOfAll rest

def Ty.outputTokens : Option Ty → List Token
  | none => []
  | some t => marks ['-', '>'] ++ t.tokens

end

def TypeParameter.tokens (p : TypeParameter) : List Token :=
  .word p.name.text ::
    match p.bound with
    | none => []
    | some bound => .mark ':' false :: bound.tokens

def parameterTokens (parameters : List TypeParameter) : List Token := inAngles (parameters.map TypeParameter.tokens)

def defaultTokens : List Token :=
  marks ['.', '.'] ++ .word "Default" :: (separator ++ .word "default" :: grouped .parenthesis [])

mutual

def Expr.tokens : Expr → List Token
  | .path p => p.tokens
  | .text value => [.literal (.text value) (quoteText value)]
  | .field base member => base.tokens ++ [.mark '.' false, .word member.text]
  | .call callee arguments => callee.tokens ++ grouped .parenthesis (commaBetween (Expr.tokensOfAll arguments))
  | .method receiver name types arguments =>
    receiver.tokens ++ .mark '.' false :: .word name.text ::
      ((if types.isEmpty then [] else separator) ++ inAngles (Ty.tokensOfAll types) ++
        grouped .parenthesis (commaBetween (Expr.tokensOfAll arguments)))
  | .borrow target => .mark '&' false :: .word "mut" :: target.tokens
  | .record p fields filledUp =>
    p.tokens ++
      grouped .brace (commaAfter (Expr.fieldTokens filledUp fields) ++ if filledUp then defaultTokens else [])
  | .closure parameters braced body =>
    .mark '|' parameters.isEmpty :: (commaBetween (parameters.map fun name => [.word name.text]) ++
      .mark '|' false :: if braced then grouped .brace body.tokens else body.tokens)
  | .assign target value => target.tokens ++ .mark '=' false :: value.tokens

def Expr.tokensOfAll : List Expr → List (List Token)
  | [] => []
  | e :: rest => e.tokens :: Expr.tokensOfAll rest

/-- The fields of a record. Before the fields that are not listed, one that has the name of its value is written
once. -/
def Expr.fieldTokens (followed : Bool) : List (Ident × Expr) → List (List Token)
  | [] => []
  | (name, value) :: rest =>
    (.word name.text :: if followed && value.var? = some name then [] else .mark ':' false :: value.tokens) ::
      Expr.fieldTokens followed rest

end

def runTokens (e : Expr) : List Token := e.tokens ++ [.mark ';' false]

def Stmt.tokens : Stmt → List Token
  | .bind mutable name value =>
    .word "let" :: ((if mutable then [.word "mut"] else []) ++
      .word name.text :: .mark '=' false :: (value.tokens ++ [.mark ';' false]))
  | .run e => runTokens e
  | .each name value body =>
    .word "for" :: .word name.text :: .word "in" :: (value.tokens ++ grouped .brace (body.flatMap runTokens))
  | .give e => e.tokens

def Receiver.tokens : Receiver → List Token
  | .value => [.word "self"]
  | .ownValue => [.word "mut", .word "self"]
  | .reference => [.mark '&' false, .word "mut", .word "self"]

def Signature.tokens (s : Signature) : List Token :=
  let receiver := (s.receiver.map Receiver.tokens).toList
  let parameters := s.parameters.map fun (name, type) => .word name.text :: .mark ':' false :: type.tokens
  .word "fn" :: .word s.name.text ::
    (grouped .parenthesis (commaBetween (receiver ++ parameters)) ++ Ty.outputTokens s.output)

def docTokens (doc : Option String) : List Token :=
  match doc with
  | none => []
  | some text => documentationTokens false (' ' :: text.toList)

def attributeTokens (text : String) : List Token :=
  .mark '#' false :: grouped .bracket ((lex text).getD [])

def exportTokens (exported : Bool) : List Token := if exported then [.word "pub"] else []

def bodyTokens : Option (List Stmt) → List Token
  | some body => grouped .brace (body.flatMap Stmt.tokens)
  | none => [.mark ';' false]

def Function.tokens (f : Function) : List Token :=
  docTokens f.doc ++ (exportTokens f.exported ++ f.signature.tokens ++ bodyTokens f.body)

def parentTokens : List Ty → List Token
  | [] => []
  | first :: rest =>
    .mark ':' false :: (first.tokens ++ rest.flatMap fun parent => .mark '+' false :: parent.tokens)

def Member.tokens (m : Member) : List Token :=
  exportTokens m.exported ++ .word m.name.text :: .mark ':' false :: m.type.tokens

def memberTokens : Option (List Member) → List Token
  | some members => grouped .brace (commaAfter (members.map Member.tokens))
  | none => [.mark ';' false]

def bracketTokens : Option (List TypeParameter) → List Token
  | some parameters => angled (parameters.map TypeParameter.tokens)
  | none => []

def traitTokens : Option Ty → List Token
  | some t => t.tokens ++ [.word "for"]
  | none => []

mutual

def Item.tokens : Item → List Token
  | .struct doc attributes name parameters members =>
    docTokens doc ++ (attributes.flatMap attributeTokens ++
      .word "pub" :: .word "struct" :: .word name.text :: (parameterTokens parameters ++ memberTokens members))
  | .trait doc name parameters parents functions =>
    docTokens doc ++ .word "pub" :: .word "trait" :: .word name.text ::
      (parameterTokens parameters ++ parentTokens parents ++ grouped .brace (functions.flatMap Function.tokens))
  | .implementation parameters implemented target functions =>
    .word "impl" :: (bracketTokens parameters ++ traitTokens implemented ++ target.tokens ++
      grouped .brace (functions.flatMap Function.tokens))
  | .alias doc name target =>
    docTokens doc ++ .word "pub" :: .word "type" :: .word name.text :: .mark '=' false ::
      (target.tokens ++ [.mark ';' false])
  | .function f => f.tokens
  | .module name items => .word "mod" :: .word name.text :: grouped .brace (Item.tokensOfAll items)
  | .declaration name => [.word "pub", .word "mod", .word name.text, .mark ';' false]

def Item.tokensOfAll : List Item → List Token
  | [] => []
  | item :: rest => item.tokens ++ Item.tokensOfAll rest

end

end RowFactory.Code
