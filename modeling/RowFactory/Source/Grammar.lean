import RowFactory.Code.Grammar
import RowFactory.Source.Item

/-! # Grammar of items

Each function takes the tokens still unread and gives back what it found with the rest, if they begin
with what it is named for. Bodies of functions, initial values and the arguments of macros are taken as
they are: their brackets match, and nothing else is asked of them.
-/

namespace RowFactory.Source

open Code

namespace Grammar

open Code.Grammar

def type (tokens : Tokens) : Option Tokens := Code.Grammar.type (fuelFor tokens) true tokens

def bound (tokens : Tokens) : Option Tokens := Code.Grammar.bound (fuelFor tokens) tokens

def skipWord (word : String) (tokens : Tokens) : Tokens := (word? word tokens).getD tokens

def skipSymbol (s : String) (tokens : Tokens) : Tokens := (symbol s tokens).getD tokens

/-- Parts with commas between them, up to the end of a group. Every part takes at least one token. -/
def separated (part : Tokens → Option Tokens) : Nat → Tokens → Bool
  | 0, _ => false
  | fuel + 1, tokens =>
    tokens.isEmpty ||
      match part tokens with
      | none => false
      | some [] => true
      | some rest =>
        match symbol "," rest with
        | some rest => separated part fuel rest
        | none => false

def listOf (part : Tokens → Option Tokens) (tokens : Tokens) : Bool :=
  separated part (tokens.length + 1) tokens

/-- Everything before a symbol outside of groups, which must be something, and the symbol itself. -/
def valueBefore (stop : String) (taken : Bool) : Nat → Tokens → Option Tokens
  | 0, _ => none
  | fuel + 1, tokens =>
    match symbol stop tokens with
    | some rest => if taken then some rest else none
    | none => skipTree tokens >>= valueBefore stop true fuel

/-- Everything up to the end or a comma outside of groups, which must be something. -/
def valueInList (taken : Bool) : Nat → Tokens → Option Tokens
  | 0, _ => none
  | fuel + 1, tokens =>
    if tokens.isEmpty || isSymbol "," tokens then if taken then some tokens else none
    else skipTree tokens >>= valueInList true fuel

def valueAndSemicolon (tokens : Tokens) : Option Tokens :=
  valueBefore ";" false (tokens.length + 1) tokens

/-! ## Attributes -/

def plainPath : Nat → Tokens → Option (List String × Tokens)
  | 0, _ => none
  | fuel + 1, tokens =>
    match tokens with
    | .word w :: rest =>
      if (ident? tokens).isSome || ["super", "self", "Self", "crate"].contains w then
        match symbol "::" rest with
        | some after => (plainPath fuel after).map fun (words, rest) => (w :: words, rest)
        | none => some ([w], rest)
      else none
    | _ => none

def path (tokens : Tokens) : Option (List String × Tokens) :=
  plainPath (tokens.length + 1) (skipSymbol "::" tokens)

def attributeContent (tokens : Tokens) : Option Attribute :=
  let head :=
    match word? "unsafe" tokens with
    | some rest => some (["unsafe"], rest)
    | none => path tokens
  match head with
  | none => none
  | some (words, []) => some ⟨words, none⟩
  | some (words, rest) =>
    match anyGroup? rest with
    | some (_, inner, after) => if after.isEmpty then some ⟨words, some inner⟩ else none
    | none =>
      match symbol "=" rest with
      | some (_ :: _) => some ⟨words, none⟩
      | _ => none

/-- Attributes in front of something; with `inner`, those that a body begins with. -/
def attributes (inner : Bool) : Nat → Tokens → Option (List Attribute × Tokens)
  | 0, _ => none
  | fuel + 1, tokens =>
    match symbol "#" tokens with
    | none => some ([], tokens)
    | some rest =>
      let start := if inner then symbol "!" rest else some rest
      match start with
      | none => if inner then some ([], tokens) else none
      | some rest =>
        match group? .bracket rest with
        | none => none
        | some (content, after) =>
          match attributeContent content, attributes inner fuel after with
          | some a, some (more, rest) => some (a :: more, rest)
          | _, _ => none

def outerAttributes (tokens : Tokens) : Option (List Attribute × Tokens) :=
  attributes false (tokens.length + 1) tokens

def innerAttributes (tokens : Tokens) : Option (List Attribute × Tokens) :=
  attributes true (tokens.length + 1) tokens

def skipAttributes (tokens : Tokens) : Option Tokens := (outerAttributes tokens).map (·.2)

/-! ## Visibility, generics and conditions -/

def visibility (tokens : Tokens) : Option (Bool × Tokens) :=
  match word? "pub" tokens with
  | none => some (false, tokens)
  | some rest =>
    match group? .parenthesis rest with
    | none => some (true, rest)
    | some (inner, after) =>
      match word? "in" inner with
      | some content =>
        match path content with
        | some (_, []) => some (true, after)
        | _ => none
      | none =>
        match inner with
        | [.word w] => some (true, if ["crate", "self", "super"].contains w then after else rest)
        | _ => some (true, rest)

def skipVisibility (tokens : Tokens) : Option Tokens := (visibility tokens).map (·.2)

/-- Bounds joined by `+` up to one of the given stops. -/
def boundsUntil (stops : Tokens → Bool) : Nat → Tokens → Option Tokens
  | 0, _ => none
  | fuel + 1, tokens =>
    if stops tokens then some tokens
    else
      match bound tokens with
      | none => none
      | some rest =>
        match symbol "+" rest with
        | some rest => boundsUntil stops fuel rest
        | none => some rest

def isColon (tokens : Tokens) : Bool := isSymbol ":" tokens && !isSymbol "::" tokens

def endsPredicate (tokens : Tokens) : Bool :=
  tokens.isEmpty || isOpening .brace tokens || isSymbol "," tokens || isSymbol ";" tokens ||
    isColon tokens || isSymbol "=" tokens

def predicate (tokens : Tokens) : Option Tokens :=
  let bounds (rest : Tokens) : Option Tokens := boundsUntil endsPredicate (rest.length + 1) rest
  match lifetime? tokens >>= symbol ":" with
  | some rest => bounds rest
  | none =>
    let start :=
      match word? "for" tokens with
      | some rest => binder (fuelFor rest) rest
      | none => some tokens
    start >>= type >>= symbol ":" >>= bounds

def predicates : Nat → Tokens → Option Tokens
  | 0, _ => none
  | fuel + 1, tokens =>
    if endsPredicate tokens then some tokens
    else
      match predicate tokens with
      | none => none
      | some rest =>
        match symbol "," rest with
        | some rest => predicates fuel rest
        | none => some rest

def conditions (tokens : Tokens) : Option Tokens :=
  match word? "where" tokens with
  | some rest => predicates (rest.length + 1) rest
  | none => some tokens

def endsParameter (tokens : Tokens) : Bool :=
  isSymbol "," tokens || isSymbol ">" tokens || isSymbol "=" tokens

def constant (tokens : Tokens) : Option Tokens :=
  match literal? tokens with
  | some rest => some rest
  | none =>
    match group? .brace tokens with
    | some (_, rest) => some rest
    | none => (ident? tokens).map (·.2)

def genericParameter (tokens : Tokens) : Option Tokens := do
  let tokens ← skipAttributes tokens
  let bounds (rest : Tokens) : Option Tokens :=
    match symbol ":" rest with
    | some rest => boundsUntil endsParameter (rest.length + 1) rest
    | none => some rest
  match lifetime? tokens, word? "const" tokens with
  | some rest, _ => bounds rest
  | none, some rest =>
    let (_, rest) ← ident? rest
    let rest ← symbol ":" rest >>= type
    match symbol "=" rest with
    | some rest => constant rest
    | none => return rest
  | none, none =>
    let rest ← (ident? tokens).map (·.2) <|> word? "_" tokens
    let rest ← bounds rest
    match symbol "=" rest with
    | some rest => type rest
    | none => return rest

def genericParameters : Nat → Tokens → Option Tokens
  | 0, _ => none
  | fuel + 1, tokens =>
    match symbol ">" tokens with
    | some rest => some rest
    | none =>
      match genericParameter tokens with
      | none => none
      | some rest =>
        match symbol ">" rest with
        | some rest => some rest
        | none => symbol "," rest >>= genericParameters fuel

def generics (tokens : Tokens) : Option Tokens :=
  match symbol "<" tokens with
  | some rest => genericParameters (rest.length + 1) rest
  | none => some tokens

/-! ## Functions -/

def isLiteral (tokens : Tokens) : Bool := (literal? tokens).isSome

def pattern : Nat → Tokens → Option Tokens
  | 0, _ => none
  | fuel + 1, tokens =>
    let range (rest : Tokens) : Option Tokens :=
      match symbol "..=" rest <|> symbol "..." rest <|> symbol ".." rest with
      | some after => some ((literal? after).getD after)
      | none => some rest
    match tokens with
    | .mark '&' _ :: rest => pattern fuel (skipWord "mut" rest)
    | .opening .brace :: _ => none
    | .opening _ :: _ => (anyGroup? tokens).map (·.2.2)
    | .mark '.' _ :: _ => symbol ".." tokens
    | _ =>
      if isLiteral tokens then literal? tokens >>= range
      else
        match word? "_" tokens with
        | some rest => some rest
        | none =>
          let binding := skipWord "mut" (skipWord "ref" tokens)
          match ident? binding with
          | some (_, rest) =>
            if isSymbol "::" rest || isSymbol "<" rest then
              match Code.Grammar.path (fuelFor tokens) true binding with
              | some (_, rest) => range (((anyGroup? rest).map (·.2.2)).getD rest)
              | none => none
            else if isSymbol "!" rest then ((symbol "!" rest) >>= anyGroup?).map (·.2.2)
            else
              match symbol "@" rest with
              | some rest => pattern fuel rest
              | none => range (((anyGroup? rest).map (·.2.2)).getD rest)
          | none =>
            match Code.Grammar.path (fuelFor tokens) true tokens with
            | some (_, rest) => range (((anyGroup? rest).map (·.2.2)).getD rest)
            | none => none

def receiver (tokens : Tokens) : Option Tokens :=
  match symbol "&" tokens with
  | some rest => word? "self" (skipWord "mut" ((lifetime? rest).getD rest))
  | none =>
    match word? "self" (skipWord "mut" tokens) with
    | none => none
    | some rest => if isColon rest then type (rest.drop 1) else some rest

def parameter (tokens : Tokens) : Option Tokens := do
  let tokens ← skipAttributes tokens
  if isSymbol "..." tokens then symbol "..." tokens
  else
    let typed : Option Tokens := do
      let rest ← pattern (fuelFor tokens) tokens >>= symbol ":"
      match symbol "..." rest with
      | some rest => return rest
      | none => type rest
    match (ident? tokens).filter fun (_, rest) => isSymbol "<" rest with
    | some _ => type tokens
    | none => typed

/-- The parameters of a function; only the first one may be a receiver. -/
def parameters (tokens : Tokens) : Bool :=
  let afterReceiver :=
    match (skipAttributes tokens) >>= receiver with
    | none => some tokens
    | some [] => some []
    | some rest => symbol "," rest
  match afterReceiver with
  | some rest => listOf parameter rest
  | none => false

def convention (tokens : Tokens) : Tokens :=
  match word? "extern" tokens with
  | some (.literal (.text _) _ :: rest) => rest
  | some rest => rest
  | none => tokens

def modifiers (tokens : Tokens) : Tokens :=
  convention (skipWord "unsafe" (skipWord "async" (skipWord "const" tokens)))

def startsFunction (tokens : Tokens) : Bool := isWord "fn" (modifiers tokens)

def signature (tokens : Tokens) : Option (Ident × Tokens) := do
  let rest ← word? "fn" (modifiers tokens)
  let (name, rest) ← ident? rest
  let rest ← generics rest
  let (inner, rest) ← group? .parenthesis rest
  if !parameters inner then none
  let rest ← returnType (fuelFor rest) true rest
  let rest ← conditions rest
  return (name, rest)

/-- A body in braces, with the attributes at its beginning. -/
def body (tokens : Tokens) : Option (List Attribute × Tokens) := do
  let (inner, rest) ← group? .brace tokens
  let (attributes, _) ← innerAttributes inner
  return (attributes, rest)

/-! ## Fields and variants -/

def namedField (tokens : Tokens) : Option Tokens :=
  skipAttributes tokens >>= skipVisibility >>= fun rest =>
    match ident? rest with
    | some (_, rest) => symbol ":" rest >>= type
    | none => word? "_" rest >>= symbol ":" >>= type

def plainField (tokens : Tokens) : Option Tokens := skipAttributes tokens >>= skipVisibility >>= type

def namedFields (tokens : Tokens) : Option Tokens := within .brace (listOf namedField) tokens

def plainFields (tokens : Tokens) : Option Tokens := within .parenthesis (listOf plainField) tokens

def variant (tokens : Tokens) : Option Tokens := do
  let rest ← skipAttributes tokens >>= skipVisibility
  let (_, rest) ← ident? rest
  let rest ←
    if isOpening .brace rest then namedFields rest
    else if isOpening .parenthesis rest then plainFields rest
    else some rest
  match symbol "=" rest with
  | some rest => valueInList false (rest.length + 1) rest
  | none => return rest

/-! ## Members of traits and implementations -/

def macroCall (tokens : Tokens) : Option Tokens := do
  let (_, rest) ← path tokens
  let rest ← symbol "!" rest
  let rest := (word? "try" rest <|> (ident? rest).map (·.2)).getD rest
  let (d, _, rest) ← anyGroup? rest
  if d = .brace then return rest else symbol ";" rest

def startsPath (tokens : Tokens) : Bool :=
  isIdent tokens || isOneOf ["self", "super", "crate"] tokens || isSymbol "::" tokens

/-- A type of its own after its word; its bounds, its definition and its conditions may be missing. -/
def typeDefinition (tokens : Tokens) : Option (Ident × Bool × Tokens) := do
  let (name, rest) ← ident? tokens
  let rest ← generics rest
  let bounded := isColon rest
  let rest ←
    match symbol ":" rest with
    | some rest =>
      boundsUntil (fun t => isWord "where" t || isSymbol "=" t || isSymbol ";" t) (rest.length + 1) rest
    | none => some rest
  let rest ← conditions rest
  let (defined, rest) ←
    match symbol "=" rest with
    | some rest => (type rest).map (true, ·)
    | none => some (false, rest)
  let rest ← conditions rest
  let rest ← symbol ";" rest
  return (name, defined && !bounded, rest)

/-- A constant after its word, and whether it is complete and plain. -/
def constantDefinition (tokens : Tokens) : Option (Ident × Bool × Tokens) := do
  let (name, rest) ← ident? tokens <|> (word? "_" tokens).map fun rest => (⟨"_", false⟩, rest)
  let isGeneric := isSymbol "<" rest
  let rest ← generics rest
  let rest ← symbol ":" rest >>= type
  match symbol "=" rest with
  | some rest => return (name, !isGeneric, ← valueAndSemicolon rest)
  | none => return (name, false, ← conditions rest >>= symbol ";")

def member (tokens : Tokens) : Option Tokens := do
  let rest ← skipAttributes tokens
  let (visible, rest) ← visibility rest
  let isDefault := isWord "default" rest && !((word? "default" rest).any (isSymbol "!"))
  let rest := if isDefault then rest.drop 1 else rest
  if startsFunction rest then
    let (_, rest) ← signature rest
    match symbol ";" rest with
    | some rest => return rest
    | none => (body rest).map (·.2)
  else
    match word? "const" rest, word? "type" rest with
    | some rest, _ => (constantDefinition rest).map (·.2.2)
    | none, some rest => (typeDefinition rest).map (·.2.2)
    | none, none => if !visible && !isDefault && startsPath rest then macroCall rest else none

def members : Nat → Tokens → Bool
  | 0, _ => false
  | fuel + 1, tokens =>
    tokens.isEmpty ||
      match member tokens with
      | some rest => members fuel rest
      | none => false

def memberBody (tokens : Tokens) : Option (List Attribute × Tokens) := do
  let (inner, rest) ← group? .brace tokens
  let (attributes, content) ← innerAttributes inner
  if members (content.length + 1) content then return (attributes, rest) else none

def foreignMember (tokens : Tokens) : Option Tokens := do
  let rest ← skipAttributes tokens >>= skipVisibility
  let plain := skipWord "safe" (skipWord "unsafe" rest)
  if startsFunction rest || startsFunction plain then
    let (_, rest) ← signature (if startsFunction rest then rest else plain)
    match symbol ";" rest with
    | some rest => return rest
    | none => (body rest).map (·.2)
  else
    match word? "static" plain, word? "type" rest with
    | some rest, _ =>
      let (_, rest) ← ident? (skipWord "mut" rest)
      let rest ← symbol ":" rest >>= type
      match symbol "=" rest with
      | some rest => valueAndSemicolon rest
      | none => symbol ";" rest
    | none, some rest => (typeDefinition rest).map (·.2.2)
    | none, none => if startsPath rest then macroCall rest else none

def foreignMembers : Nat → Tokens → Bool
  | 0, _ => false
  | fuel + 1, tokens =>
    tokens.isEmpty ||
      match foreignMember tokens with
      | some rest => foreignMembers fuel rest
      | none => false

def foreignBody (tokens : Tokens) : Option Tokens := do
  let (inner, rest) ← group? .brace tokens
  let (_, content) ← innerAttributes inner
  if foreignMembers (content.length + 1) content then return rest else none

/-! ## Imports -/

mutual

def useTree (fuel : Nat) (rooted : Bool) (tokens : Tokens) : Option Tokens :=
  match fuel with
  | 0 => none
  | fuel + 1 =>
    match tokens with
    | .word w :: rest =>
      if isIdent tokens || ["self", "super", "crate", "try"].contains w then
        match symbol "::" rest, word? "as" rest with
        | some rest, _ => useTree fuel false rest
        | none, some rest => (ident? rest).map (·.2) <|> word? "_" rest
        | none, none => some rest
      else none
    | .mark '*' _ :: rest => some rest
    | .opening .brace :: _ =>
      match group? .brace tokens with
      | some (inner, rest) => if useTrees fuel rooted inner then some rest else none
      | none => none
    | _ => none

def useTrees (fuel : Nat) (rooted : Bool) (tokens : Tokens) : Bool :=
  match fuel with
  | 0 => false
  | fuel + 1 =>
    tokens.isEmpty ||
      let isRooted := rooted && isSymbol "::" tokens
      match useTree fuel (rooted && !isRooted) (if isRooted then tokens.drop 2 else tokens) with
      | none => false
      | some [] => true
      | some rest =>
        match symbol "," rest with
        | some rest => useTrees fuel rooted rest
        | none => false

end

def importItem (tokens : Tokens) : Option Tokens :=
  let rooted := isSymbol "::" tokens
  useTree (fuelFor tokens) (!rooted) (skipSymbol "::" tokens) >>= symbol ";"

/-! ## Items -/

def other (rest : Option Tokens) : Option (Item × Tokens) := rest.map (.mk .other "" [] [], ·)

/-- An item of the grammar that is kept as its tokens, without attributes of its own. -/
def verbatim (rest : Option Tokens) : Option (Item × Bool × Tokens) :=
  rest.map (.mk .other "" [] [], true, ·)

def parsed (item : Option (Item × Tokens)) : Option (Item × Bool × Tokens) :=
  item.map fun (i, rest) => (i, false, rest)

def structItem (tokens : Tokens) : Option (Item × Tokens) := do
  let (name, rest) ← ident? tokens
  let rest ← generics rest
  let item := Item.mk .struct name.text [] []
  let conditional := isWord "where" rest
  let rest ← conditions rest
  if !conditional && isOpening .parenthesis rest then
    return (item, ← plainFields rest >>= conditions >>= symbol ";")
  else if isOpening .brace rest then return (item, ← namedFields rest)
  else return (item, ← symbol ";" rest)

def enumItem (tokens : Tokens) : Option (Item × Tokens) := do
  let (name, rest) ← ident? tokens
  let rest ← generics rest >>= conditions
  return (.mk .enumeration name.text [] [], ← within .brace (listOf variant) rest)

def unionItem (tokens : Tokens) : Option Tokens := do
  let (_, rest) ← ident? tokens
  generics rest >>= conditions >>= namedFields

def traitItem (aliasAllowed : Bool) (tokens : Tokens) : Option (Item × Tokens) := do
  let (name, rest) ← ident? tokens
  let rest ← generics rest
  match (symbol "=" rest).filter fun _ => aliasAllowed with
  | some rest =>
    let stops (t : Tokens) : Bool := isWord "where" t || isSymbol ";" t
    other (boundsUntil stops (rest.length + 1) rest >>= conditions >>= symbol ";")
  | none =>
    let stops (t : Tokens) : Bool := isWord "where" t || isOpening .brace t
    let rest ←
      match symbol ":" rest with
      | some rest => boundsUntil stops (rest.length + 1) rest
      | none => some rest
    let rest ← conditions rest
    let (attributes, rest) ← memberBody rest
    return (.mk .trait name.text attributes [], rest)

/-- Type parameters, and not a type in angle brackets, follow the word of an implementation. -/
def startsGenerics (tokens : Tokens) : Bool :=
  match symbol "<" tokens with
  | none => false
  | some rest =>
    isSymbol ">" rest || isSymbol "#" rest || isWord "const" rest ||
      match lifetime? rest <|> (ident? rest).map (·.2) with
      | some after =>
        isSymbol ":" after || isSymbol "," after || isSymbol ">" after || isSymbol "=" after
      | none => false

/-- An implementation, and whether it is kept as its tokens. -/
def implementation (visible : Bool) (tokens : Tokens) : Option (Bool × Tokens) := do
  let rest ← word? "impl" (skipWord "unsafe" (skipWord "default" tokens))
  let rest ← if startsGenerics rest then generics rest else some rest
  let constant := (word? "const" (skipSymbol "?" rest)).getD rest
  let isConst := constant.length ≠ rest.length
  let rest := constant
  let negative := isSymbol "!" rest && !((symbol "!" rest).any (isOpening .brace))
  let rest := if negative then rest.drop 1 else rest
  let first := rest
  let rest ← type rest
  let (isPath, rest) ←
    match word? "for" rest with
    | some rest =>
      let isPath := (Code.Grammar.typePath (fuelFor first) first).isSome && !isSymbol "<" first
      (type rest).map (isPath, ·)
    | none => some (true, rest)
  let rest ← conditions rest
  let (_, rest) ← memberBody rest
  return (visible || isConst || !isPath, rest)

def externCrate (tokens : Tokens) : Option Tokens := do
  let rest ← (ident? tokens).map (·.2) <|> word? "self" tokens
  match word? "as" rest with
  | some rest => ((ident? rest).map (·.2) <|> word? "_" rest) >>= symbol ";"
  | none => symbol ";" rest

def staticItem (tokens : Tokens) : Option (Bool × Tokens) := do
  let (_, rest) ← ident? (skipWord "mut" tokens)
  match symbol "=" rest with
  | some rest => return (true, ← valueAndSemicolon rest)
  | none =>
    let rest ← symbol ":" rest >>= type
    match symbol ";" rest with
    | some rest => return (true, rest)
    | none => return (false, ← symbol "=" rest >>= valueAndSemicolon)

def macroDefinition (tokens : Tokens) : Option Tokens := do
  let (_, rest) ← ident? tokens
  let rest := ((group? .parenthesis rest).map (·.2)).getD rest
  let (_, rest) ← group? .brace rest
  return rest

def functionItem (tokens : Tokens) : Option (Item × Bool × Tokens) := do
  let (name, rest) ← signature tokens
  match symbol ";" rest with
  | some rest => verbatim (some rest)
  | none =>
    let (attributes, rest) ← body rest
    return (.mk .function name.text attributes [], false, rest)

mutual

/-- An item after its outer attributes, and whether it is kept as its tokens. -/
def plainItem (fuel : Nat) (tokens : Tokens) : Option (Item × Bool × Tokens) :=
  match fuel with
  | 0 => none
  | fuel + 1 =>
    match visibility tokens with
    | none => none
    | some (visible, rest) =>
      let ifHidden (found : Option (Item × Bool × Tokens)) : Option (Item × Bool × Tokens) :=
        if visible then none else found
      if startsFunction rest then functionItem rest
      else
        match rest with
        | .word w :: after =>
          match w with
          | "extern" =>
            match word? "crate" after with
            | some after => parsed (other (externCrate after))
            | none => ifHidden (parsed (other (foreignBody (convention rest))))
          | "use" => parsed (other (importItem after))
          | "static" =>
            (staticItem after).map fun (kept, rest) => (.mk .other "" [] [], kept, rest)
          | "const" =>
            (constantDefinition after).map fun (name, plain, rest) =>
              if plain then (.mk .constant name.text [] [], false, rest)
              else (.mk .other "" [] [], true, rest)
          | "unsafe" =>
            if isWord "trait" after || (isWord "auto" after && isWord "trait" (after.drop 1)) then
              parsed (word? "trait" (skipWord "auto" after) >>= traitItem false)
            else if isWord "impl" after then
              (implementation visible rest).map fun (kept, rest) => (.mk .other "" [] [], kept, rest)
            else if isWord "extern" after then
              ifHidden (parsed (other (foreignBody (convention after))))
            else if isWord "mod" after then moduleItem fuel (after.drop 1)
            else none
          | "mod" => moduleItem fuel after
          | "type" =>
            (typeDefinition after).map fun (name, plain, rest) =>
              if plain then (.mk .alias name.text [] [], false, rest)
              else (.mk .other "" [] [], true, rest)
          | "struct" => parsed (structItem after)
          | "enum" => parsed (enumItem after)
          | "trait" => parsed (traitItem true after)
          | "impl" =>
            (implementation visible rest).map fun (kept, rest) => (.mk .other "" [] [], kept, rest)
          | "macro" => verbatim (macroDefinition after)
          | _ =>
            if w = "union" && isIdent after then parsed (other (unionItem after))
            else if w = "auto" && isWord "trait" after then parsed (traitItem false (after.drop 1))
            else if w = "default" && !isSymbol "!" after then
              (implementation visible rest).map fun (kept, rest) => (.mk .other "" [] [], kept, rest)
            else if startsPath rest then ifHidden (parsed (other (macroCall rest)))
            else none
        | _ => if startsPath rest then ifHidden (parsed (other (macroCall rest))) else none

def moduleItem (fuel : Nat) (tokens : Tokens) : Option (Item × Bool × Tokens) :=
  match fuel with
  | 0 => none
  | fuel + 1 =>
    match ident? tokens <|> (word? "try" tokens).map fun rest => (⟨"try", false⟩, rest) with
    | none => none
    | some (name, rest) =>
      match symbol ";" rest with
      | some rest => some (.mk .module name.text [] [], false, rest)
      | none =>
        match group? .brace rest with
        | none => none
        | some (inner, rest) =>
          match innerAttributes inner with
          | none => none
          | some (attributes, content) =>
            match items fuel content with
            | some contents => some (.mk .module name.text attributes contents, false, rest)
            | none => none

def item (fuel : Nat) (tokens : Tokens) : Option (Item × Bool × Tokens) :=
  match fuel with
  | 0 => none
  | fuel + 1 =>
    match outerAttributes tokens with
    | none => none
    | some (outer, rest) =>
      match plainItem fuel rest with
      | some (.mk kind name inner contents, kept, rest) =>
        some (.mk kind name (if kept then [] else outer ++ inner) contents, kept, rest)
      | none => none

def items (fuel : Nat) (tokens : Tokens) : Option (List Item) :=
  match fuel with
  | 0 => none
  | fuel + 1 =>
    if tokens.isEmpty then some []
    else
      match item fuel tokens with
      | some (first, _, rest) => (items fuel rest).map (first :: ·)
      | none => none

end

end Grammar

/-- The first line of a script that names its interpreter. -/
def dropInterpreter (text : List Char) : List Char :=
  match text with
  | '#' :: '!' :: rest =>
    match skipSpace rest.length rest with
    | '[' :: _ => text
    | _ => text.dropWhile (· ≠ '\n')
  | _ => text

def readItems (source : String) : Option (List Item) := do
  let tokens ← lex (String.ofList (dropInterpreter (dropMark source.toList)))
  let (_, content) ← Grammar.innerAttributes tokens
  Grammar.items (Code.Grammar.fuelFor content) content

end RowFactory.Source
