import RowFactory.Code.Ident
import RowFactory.Code.Lexer

/-! # Grammar of types and paths

Each function takes the tokens still unread and gives back the rest, if they begin with what it is named
for. Fuel bounds the depth of nesting together with the number of tokens.
-/

namespace RowFactory.Code

structure Segment where
  ident : Ident
  arguments : List Token := []
  deriving DecidableEq, Repr

structure Path where
  leading : Bool
  segments : List Segment
  deriving DecidableEq, Repr

namespace Grammar

abbrev Tokens := List Token

/-- Enough for every token list of this length. -/
def fuelFor (tokens : Tokens) : Nat := 10 * tokens.length + 10

/-! ## Single tokens -/

/-- Adjacent marks that spell a symbol. -/
def symbol? : List Char → Tokens → Option Tokens
  | [], tokens => some tokens
  | [c], .mark s _ :: rest => if s = c then some rest else none
  | c :: more, .mark s true :: rest => if s = c then symbol? more rest else none
  | _, _ => none

def isSymbol (symbol : String) (tokens : Tokens) : Bool := (symbol? symbol.toList tokens).isSome

def symbol (symbol : String) (tokens : Tokens) : Option Tokens := symbol? symbol.toList tokens

def word? (word : String) : Tokens → Option Tokens
  | .word w :: rest => if w = word then some rest else none
  | _ => none

def isWord (word : String) (tokens : Tokens) : Bool := (word? word tokens).isSome

def isOneOf (words : List String) (tokens : Tokens) : Bool := words.any (isWord · tokens)

def identOf (word : String) : Ident :=
  match word.toList with
  | 'r' :: '#' :: name => ⟨String.ofList name, true⟩
  | _ => ⟨word, false⟩

def ident? : Tokens → Option (Ident × Tokens)
  | .word w :: rest => if w = "_" || keywords.contains w then none else some (identOf w, rest)
  | _ => none

def anyWord? : Tokens → Option (Ident × Tokens)
  | .word w :: rest => some (identOf w, rest)
  | _ => none

def isIdent (tokens : Tokens) : Bool := (ident? tokens).isSome

def lifetime? : Tokens → Option Tokens
  | .mark '\'' _ :: .word _ :: rest => some rest
  | _ => none

def isLifetime (tokens : Tokens) : Bool := (lifetime? tokens).isSome

def isOpening (d : Delimiter) : Tokens → Bool
  | .opening d' :: _ => d = d'
  | _ => false

/-- After the closing token that matches an opening one already passed. -/
def skipTo (depth : Nat) : Tokens → Option Tokens
  | [] => none
  | .opening _ :: rest => skipTo (depth + 1) rest
  | .closing _ :: rest =>
    match depth with
    | 0 => some rest
    | depth + 1 => skipTo depth rest
  | _ :: rest => skipTo depth rest

def group? (d : Delimiter) : Tokens → Option (Tokens × Tokens)
  | .opening d' :: rest =>
    if d = d' then
      (skipTo 0 rest).map fun after => (rest.take (rest.length - after.length - 1), after)
    else none
  | _ => none

def anyGroup? : Tokens → Option (Delimiter × Tokens × Tokens)
  | .opening d :: rest => (group? d (.opening d :: rest)).map fun (inner, after) => (d, inner, after)
  | _ => none

/-- After one token, a lifetime or a group. -/
def skipTree : Tokens → Option Tokens
  | [] => none
  | .opening _ :: rest => skipTo 0 rest
  | .closing _ :: _ => none
  | .mark '\'' _ :: .word _ :: rest => some rest
  | _ :: rest => some rest

def literal? : Tokens → Option Tokens
  | .literal _ _ :: rest => some rest
  | .word "true" :: rest => some rest
  | .word "false" :: rest => some rest
  | .mark '-' _ :: .literal .other text :: rest =>
    if ((text.toList.head?.map Char.isDigit).getD false) then some rest else none
  | _ => none

def within (d : Delimiter) (inner : Tokens → Bool) (tokens : Tokens) : Option Tokens :=
  match group? d tokens with
  | some (content, after) => if inner content then some after else none
  | none => none

def finished : Option Tokens → Bool
  | some [] => true
  | _ => false

/-! ## Paths and types -/

def endsPlainly (names : List Segment) : Bool :=
  match names.getLast? with
  | some last => last.arguments.isEmpty
  | none => false

def startsBound (tokens : Tokens) : Bool :=
  (anyWord? tokens).isSome || isSymbol "::" tokens || isSymbol "?" tokens || isLifetime tokens ||
    isOpening .parenthesis tokens || isSymbol "~" tokens

mutual

/-- One name of a path. In an expression its arguments need a separator. -/
def segment (fuel : Nat) (inExpression : Bool) (tokens : Tokens) : Option (Segment × Tokens) :=
  match fuel with
  | 0 => none
  | fuel + 1 =>
    match tokens with
    | .word w :: rest =>
      if ["super", "self", "crate", "try"].contains w then some (⟨⟨w, false⟩, []⟩, rest)
      else if !(identOf w).standsInPath then none
      else
        let plain := isSymbol "<" rest && !isSymbol "<=" rest && !isSymbol "<<=" rest
        let explicit := (symbol "::" rest).any (isSymbol "<")
        if (!inExpression && plain) || explicit then
          match angled fuel ((symbol "::" rest).getD rest) with
          | some after => some (⟨identOf w, rest.take (rest.length - after.length)⟩, after)
          | none => none
        else some (⟨identOf w, []⟩, rest)
    | _ => none

def segments (fuel : Nat) (inExpression : Bool) (tokens : Tokens) :
    Option (List Segment × Tokens) :=
  match fuel with
  | 0 => none
  | fuel + 1 =>
    match segment fuel inExpression tokens with
    | none => none
    | some (first, rest) =>
      match symbol "::" rest with
      | some after =>
        if isOpening .parenthesis after then some ([first], rest)
        else (segments fuel inExpression after).map fun (more, rest) => (first :: more, rest)
      | none => some ([first], rest)

def path (fuel : Nat) (inExpression : Bool) (tokens : Tokens) : Option (Path × Tokens) :=
  match fuel with
  | 0 => none
  | fuel + 1 =>
    match symbol "::" tokens with
    | some rest => (segments fuel inExpression rest).map fun (s, rest) => (⟨true, s⟩, rest)
    | none => (segments fuel inExpression tokens).map fun (s, rest) => (⟨false, s⟩, rest)

def angled (fuel : Nat) (tokens : Tokens) : Option Tokens :=
  match fuel with
  | 0 => none
  | fuel + 1 => symbol "<" tokens >>= arguments fuel

def arguments (fuel : Nat) (tokens : Tokens) : Option Tokens :=
  match fuel with
  | 0 => none
  | fuel + 1 =>
    match symbol ">" tokens with
    | some rest => some rest
    | none =>
      match argument fuel tokens with
      | none => none
      | some rest =>
        match symbol ">" rest with
        | some rest => some rest
        | none => symbol "," rest >>= arguments fuel

def argument (fuel : Nat) (tokens : Tokens) : Option Tokens :=
  match fuel with
  | 0 => none
  | fuel + 1 =>
    let constant (tokens : Tokens) : Option Tokens :=
      match literal? tokens with
      | some rest => some rest
      | none => (group? .brace tokens).map (·.2)
    match lifetime? tokens, constant tokens with
    | some rest, _ =>
      if isSymbol "+" rest then type fuel true tokens else some rest
    | none, some rest => some rest
    | none, none =>
      match (path fuel false tokens).filter fun _ => !isWord "try" tokens with
      | none => type fuel true tokens
      | some (p, rest) =>
        let single := !p.leading && p.segments.length == 1
        if isSymbol "," rest || isSymbol ">" rest then some rest
        else
          match (symbol "=" rest).filter fun _ => single with
          | some value => constant value <|> type fuel true value
          | none =>
            match (symbol ":" rest).filter fun _ => single && !isSymbol "::" rest with
            | some after => constraint fuel after
            | none => type fuel true tokens

def constraint (fuel : Nat) (tokens : Tokens) : Option Tokens :=
  match fuel with
  | 0 => none
  | fuel + 1 =>
    if isSymbol "," tokens || isSymbol ">" tokens then some tokens
    else
      match bound fuel tokens with
      | none => none
      | some rest =>
        if isSymbol "," rest || isSymbol ">" rest then some rest
        else symbol "+" rest >>= constraint fuel

/-- A path that may be the associated name of a type, and may end like a function. -/
def typePath (fuel : Nat) (tokens : Tokens) : Option Tokens :=
  match fuel with
  | 0 => none
  | fuel + 1 =>
    let found : Option (List Segment × Tokens) :=
      match symbol "<" tokens with
      | none =>
        match path fuel false tokens with
        | some (p, rest) => some (p.segments, rest)
        | none => none
      | some rest =>
        match type fuel true rest with
        | none => none
        | some rest =>
          let afterTrait : Option Tokens :=
            match word? "as" rest with
            | some rest =>
              match path fuel false rest with
              | some (_, rest) => some rest
              | none => none
            | none => some rest
          afterTrait >>= symbol ">" >>= symbol "::" >>= segments fuel false
    match found with
    | none => none
    | some (names, rest) => if endsPlainly names then callable fuel rest else some rest

/-- Arguments and result in the manner of a function, if there are any. -/
def callable (fuel : Nat) (tokens : Tokens) : Option Tokens :=
  match fuel with
  | 0 => none
  | fuel + 1 =>
    let start := ((symbol "::" tokens).filter (isOpening .parenthesis)).getD tokens
    match group? .parenthesis start with
    | none => some tokens
    | some (inner, rest) =>
      if types fuel inner then returnType fuel false rest else none

def types (fuel : Nat) (tokens : Tokens) : Bool :=
  match fuel with
  | 0 => false
  | fuel + 1 =>
    if tokens.isEmpty then true
    else
      match type fuel true tokens with
      | none => false
      | some [] => true
      | some rest =>
        match symbol "," rest with
        | some rest => types fuel rest
        | none => false

def returnType (fuel : Nat) (plus : Bool) (tokens : Tokens) : Option Tokens :=
  match fuel with
  | 0 => none
  | fuel + 1 =>
    match symbol "->" tokens with
    | some rest => type fuel plus rest
    | none => some tokens

/-- Lifetimes that a type or bound binds, after their word. -/
def binder (fuel : Nat) (tokens : Tokens) : Option Tokens :=
  match fuel with
  | 0 => none
  | fuel + 1 => symbol "<" tokens >>= binderRest fuel

def binderRest (fuel : Nat) (tokens : Tokens) : Option Tokens :=
  match fuel with
  | 0 => none
  | fuel + 1 =>
    match symbol ">" tokens with
    | some rest => some rest
    | none =>
      match lifetime? tokens with
      | none => none
      | some rest =>
        match symbol ">" rest with
        | some rest => some rest
        | none => symbol "," rest >>= binderRest fuel

def bound (fuel : Nat) (tokens : Tokens) : Option Tokens :=
  match fuel with
  | 0 => none
  | fuel + 1 =>
    match lifetime? tokens with
    | some rest => some rest
    | none =>
      match word? "use" tokens with
      | some rest => symbol "<" rest >>= captured fuel
      | none =>
        match group? .parenthesis tokens with
        | some (inner, rest) => if finished (traitBound fuel inner) then some rest else none
        | none => traitBound fuel tokens

/-- The rest of a list of captured names. -/
def captured (fuel : Nat) (tokens : Tokens) : Option Tokens :=
  match fuel with
  | 0 => none
  | fuel + 1 =>
    match symbol ">" tokens with
    | some rest => some rest
    | none =>
      match lifetime? tokens <|> (ident? tokens).map (·.2) <|> word? "Self" tokens with
      | none => none
      | some rest =>
        match symbol ">" rest with
        | some rest => some rest
        | none => symbol "," rest >>= captured fuel

def traitBound (fuel : Nat) (tokens : Tokens) : Option Tokens :=
  match fuel with
  | 0 => none
  | fuel + 1 =>
    let bind (tokens : Tokens) : Option Tokens :=
      match word? "for" tokens with
      | some rest => binder fuel rest
      | none => some tokens
    match bind tokens with
    | none => none
    | some rest =>
      let rest := (symbol "~" rest >>= word? "const").getD rest
      let rest := (symbol "?" rest).getD rest
      match bind rest with
      | none => none
      | some rest =>
        match path fuel false rest with
        | none => none
        | some (p, rest) =>
          if endsPlainly p.segments then callable fuel rest else some rest

def bounds (fuel : Nat) (plus : Bool) (tokens : Tokens) : Option Tokens :=
  match fuel with
  | 0 => none
  | fuel + 1 =>
    match bound fuel tokens with
    | none => none
    | some rest =>
      if plus then
        match symbol "+" rest with
        | some after => if startsBound after then bounds fuel plus after else some after
        | none => some rest
      else some rest

def bareParameters (fuel : Nat) (tokens : Tokens) : Bool :=
  match fuel with
  | 0 => false
  | fuel + 1 =>
    if tokens.isEmpty then true
    else if finished (symbol "..." tokens) then true
    else
      let start :=
        match tokens with
        | .word _ :: rest => if isSymbol ":" rest && !isSymbol "::" rest then rest.drop 1 else tokens
        | _ => tokens
      match type fuel true start with
      | none => false
      | some [] => true
      | some rest =>
        match symbol "," rest with
        | some rest => bareParameters fuel rest
        | none => false

def bareFunction (fuel : Nat) (tokens : Tokens) : Option Tokens :=
  match fuel with
  | 0 => none
  | fuel + 1 =>
    let rest := (word? "unsafe" tokens).getD tokens
    let rest :=
      match word? "extern" rest with
      | some (.literal (.text _) _ :: rest) => rest
      | some rest => rest
      | none => rest
    match word? "fn" rest >>= group? .parenthesis with
    | some (inner, rest) => if bareParameters fuel inner then returnType fuel false rest else none
    | none => none

/-- A type; `plus` says whether bounds may be joined at its end. -/
def type (fuel : Nat) (plus : Bool) (tokens : Tokens) : Option Tokens :=
  match fuel with
  | 0 => none
  | fuel + 1 =>
    let bound? :=
      match word? "for" tokens with
      | some rest => (binder fuel rest).map (true, ·)
      | none => some (false, tokens)
    match bound? with
    | none => none
    | some (isBound, tokens) =>
      if isOneOf ["fn", "unsafe", "extern"] tokens then bareFunction fuel tokens
      else if isIdent tokens || isOneOf ["super", "self", "Self", "crate"] tokens ||
          (!isBound && (isSymbol "::" tokens || isSymbol "<" tokens)) then
        match typePath fuel tokens with
        | none => none
        | some rest =>
          match (symbol "!" rest).filter fun _ => !isSymbol "!=" rest && !isSymbol "<" tokens with
          | some after => (anyGroup? after).map (·.2.2)
          | none =>
            match (symbol "+" rest).filter fun _ => plus && !isSymbol "<" tokens with
            | some after => if startsBound after then bounds fuel true after else some after
            | none => some rest
      else if isBound then none
      else
        match tokens with
        | .opening .parenthesis :: _ =>
          match group? .parenthesis tokens with
          | none => none
          | some (inner, rest) =>
            let content :=
              if isLifetime inner then finished (bounds fuel true inner)
              else if isSymbol "?" inner then finished (traitBound fuel inner)
              else types fuel inner
            if !content then none
            else
              match (symbol "+" rest).filter fun _ => plus && !inner.isEmpty with
              | some after => bounds fuel true after
              | none => some rest
        | .opening .bracket :: _ =>
          match group? .bracket tokens with
          | none => none
          | some (inner, rest) =>
            match type fuel true inner with
            | some [] => some rest
            | some after =>
              match symbol ";" after with
              | some (_ :: _) => some rest
              | _ => none
            | none => none
        | .word w :: rest =>
          if w = "dyn" then bounds fuel plus ((symbol "*" rest).getD rest)
          else if w = "impl" then bounds fuel plus rest
          else if w = "_" then some rest
          else none
        | .mark '*' _ :: rest =>
          match word? "const" rest <|> word? "mut" rest with
          | some rest => type fuel false rest
          | none => none
        | .mark '&' _ :: rest =>
          let rest := (lifetime? rest).getD rest
          type fuel false ((word? "mut" rest).getD rest)
        | .mark '!' _ :: rest => if isSymbol "=" rest then none else some rest
        | .mark '\'' _ :: _ => bounds fuel true tokens
        | _ => none

end

end Grammar

end RowFactory.Code
