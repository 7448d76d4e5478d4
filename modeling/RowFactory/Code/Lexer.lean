import RowFactory.Code.Token

/-! # Cutting source text into tokens

White space and plain comments are dropped; a documentation comment becomes the attribute that it stands
for. Scanners take the characters still unread and give back the rest; they fail on text that starts
with no such thing. `lex` fails on text that is not made of tokens or whose brackets do not match.
-/

namespace RowFactory.Code

abbrev Rest := Option (List Char)

def isHexDigit (c : Char) : Bool := c.isDigit || ('a' ≤ c && c ≤ 'f') || ('A' ≤ c && c ≤ 'F')

def hexDigit (c : Char) : Nat :=
  if c.isDigit then c.toNat - '0'.toNat else c.toLower.toNat - 'a'.toNat + 10

/-! ## Words -/

def plainWord? : List Char → Option (List Char × List Char)
  | [] => none
  | c :: rest =>
    if isWordStart c then some (c :: rest.takeWhile isWordRest, rest.dropWhile isWordRest) else none

def cannotBeRaw (word : List Char) : Bool :=
  ["_", "super", "self", "Self", "crate"].contains (String.ofList word)

def anyWord? : List Char → Option (List Char × List Char)
  | 'r' :: '#' :: rest =>
    match plainWord? rest with
    | some (word, rest) => if cannotBeRaw word then none else some ('r' :: '#' :: word, rest)
    | none => none
  | text => plainWord? text

def literalStarts : List (List Char) :=
  ["r\"", "r#\"", "r##", "b\"", "b'", "br\"", "br#", "c\"", "cr\"", "cr#"].map String.toList

def word? (text : List Char) : Option (List Char × List Char) :=
  if literalStarts.any (·.isPrefixOf text) then none else anyWord? text

/-- A word may follow a literal at once. -/
def skipSuffix (text : List Char) : List Char :=
  match plainWord? text with
  | some (_, rest) => rest
  | none => text

/-! ## Text literals -/

structure QuoteRules where
  /-- Largest first digit of a two-digit escape. -/
  wideEscapes : Bool
  unicodeEscapes : Bool
  asciiOnly : Bool
  nullAllowed : Bool

def textRules : QuoteRules := ⟨false, true, false, true⟩

def byteRules : QuoteRules := ⟨true, false, true, true⟩

def cRules : QuoteRules := ⟨true, true, false, false⟩

def QuoteRules.allows (rules : QuoteRules) (c : Char) : Bool :=
  (!rules.asciiOnly || Text.isAscii c) && (rules.nullAllowed || c != '\x00')

def QuoteRules.short? (rules : QuoteRules) (high low : Char) : Option Char :=
  if isHexDigit high && isHexDigit low && (rules.wideEscapes || high ≤ '7') then
    let c := Char.ofNat (hexDigit high * 16 + hexDigit low)
    if rules.nullAllowed || c != '\x00' then some c else none
  else none

/-- The digits of an escape in braces, after the opening one: at most six, with underscores after the
first one. -/
def braced? (count value : Nat) : List Char → Option (Char × List Char)
  | [] => none
  | c :: rest =>
    if isHexDigit c then
      if count = 6 then none else braced? (count + 1) (value * 16 + hexDigit c) rest
    else if c = '_' && 0 < count then braced? count value rest
    else if c = '\x7d' && 0 < count then
      if value < 0xD800 || (0xDFFF < value && value < 0x110000) then some (Char.ofNat value, rest)
      else none
    else none

theorem braced?_lt {count value : Nat} {text rest : List Char} {c : Char}
    (h : braced? count value text = some (c, rest)) : rest.length < text.length := by
  induction text generalizing count value with
  | nil => simp [braced?] at h
  | cons d text ih =>
    rw [braced?] at h
    split at h
    · split at h
      · simp at h
      · exact Nat.lt_succ_of_lt (ih h)
    · split at h
      · exact Nat.lt_succ_of_lt (ih h)
      · split at h
        · split at h
          · simp only [Option.some.injEq, Prod.mk.injEq] at h
            simp [← h.2]
          · simp at h
        · simp at h

def simpleEscape? (rules : QuoteRules) : Char → Option Char
  | 'n' => some '\n'
  | 'r' => some '\r'
  | 't' => some '\t'
  | '\\' => some '\\'
  | '\'' => some '\''
  | '"' => some '"'
  | '0' => if rules.nullAllowed then some '\x00' else none
  | _ => none

/-- The inside of a quoted literal and its closing quote. After a backslash at the end of a line, white
space is dropped. -/
def quoted? (rules : QuoteRules) (dropping : Bool) (done : List Char) :
    List Char → Option (List Char × List Char)
  | [] => none
  | '\r' :: '\n' :: rest =>
    if dropping then quoted? rules true done rest else quoted? rules false ('\n' :: done) rest
  | '\r' :: _ => none
  | '"' :: rest => some (done.reverse, rest)
  | '\\' :: '\n' :: rest => quoted? rules true done rest
  | '\\' :: '\r' :: '\n' :: rest => quoted? rules true done rest
  | '\\' :: 'x' :: high :: low :: rest =>
    match rules.short? high low with
    | some c => quoted? rules false (c :: done) rest
    | none => none
  | '\\' :: 'u' :: '\x7b' :: rest =>
    if rules.unicodeEscapes then
      match _h : braced? 0 0 rest with
      | some (c, rest') =>
        if rules.nullAllowed || c != '\x00' then quoted? rules false (c :: done) rest' else none
      | none => none
    else none
  | '\\' :: c :: rest =>
    match simpleEscape? rules c with
    | some plain => quoted? rules false (plain :: done) rest
    | none => none
  | '\\' :: [] => none
  | c :: rest =>
    if dropping && (c = ' ' || c = '\t' || c = '\n') then quoted? rules true done rest
    else if rules.allows c then quoted? rules false (c :: done) rest
    else none
termination_by text => text.length
decreasing_by
  all_goals simp only [List.length_cons]
  all_goals try have shorter := braced?_lt _h
  all_goals omega

def afterHashes? : Nat → List Char → Rest
  | 0, text => some text
  | n + 1, '#' :: rest => afterHashes? n rest
  | _ + 1, _ => none

def raw? (rules : QuoteRules) (hashes : Nat) (done : List Char) :
    List Char → Option (List Char × List Char)
  | [] => none
  | '"' :: rest =>
    match afterHashes? hashes rest with
    | some rest => some (done.reverse, rest)
    | none => raw? rules hashes ('"' :: done) rest
  | '\r' :: '\n' :: rest => raw? rules hashes ('\n' :: '\r' :: done) rest
  | '\r' :: _ => none
  | c :: rest => if rules.allows c then raw? rules hashes (c :: done) rest else none

def hashed? (rules : QuoteRules) (text : List Char) : Option (List Char × List Char) :=
  let hashes := (text.takeWhile (· = '#')).length
  match text.drop hashes with
  | '"' :: rest => if hashes ≤ 255 then raw? rules hashes [] rest else none
  | _ => none

def single? (rules : QuoteRules) : List Char → Rest
  | '\\' :: 'x' :: high :: low :: '\'' :: rest =>
    ({ rules with nullAllowed := true } : QuoteRules).short? high low |>.map fun _ => rest
  | '\\' :: 'u' :: '\x7b' :: rest =>
    if rules.unicodeEscapes then
      match braced? 0 0 rest with
      | some (_, '\'' :: rest) => some rest
      | _ => none
    else none
  | '\\' :: c :: '\'' :: rest => (simpleEscape? rules c).map fun _ => rest
  | '\\' :: _ => none
  | c :: '\'' :: rest => if rules.allows c then some rest else none
  | _ => none

/-! ## Numbers -/

def wordEnd? : List Char → Rest
  | [] => some []
  | c :: rest => if isWordRest c then none else some (c :: rest)

def numberEnd? (text : List Char) : Rest :=
  match text with
  | c :: _ =>
    if isWordStart c then
      match plainWord? text with
      | some (_, rest) => wordEnd? rest
      | none => none
    else wordEnd? text
  | [] => some []

/-- Digits of a base; `some` digit has been seen unless `empty`. -/
def digits? (base : Nat) (empty : Bool) : List Char → Rest
  | [] => if empty then none else some []
  | c :: rest =>
    if c = '_' then if empty && base = 10 then none else digits? base empty rest
    else if c.isDigit then if hexDigit c < base then digits? base false rest else none
    else if isHexDigit c && hexDigit c < base then digits? base false rest
    else if empty then none else some (c :: rest)

def integer? (text : List Char) : Rest :=
  (match text with
  | '0' :: 'x' :: rest => digits? 16 true rest
  | '0' :: 'o' :: rest => digits? 8 true rest
  | '0' :: 'b' :: rest => digits? 2 true rest
  | _ => digits? 10 true text) >>= numberEnd?

def isDecimal (c : Char) : Bool := c.isDigit || c == '_'

/-- The exponent of a number after its letter. `fallback` is what is left if there is no exponent. -/
def exponent? (fallback : Rest) (text : List Char) : Rest :=
  let text := text.dropWhile (· = '_')
  let afterSign :=
    match text with
    | '+' :: rest | '-' :: rest => rest
    | _ => text
  let digits := afterSign.takeWhile isDecimal
  if digits.any Char.isDigit then some (afterSign.dropWhile isDecimal) else fallback

def float? (text : List Char) : Rest :=
  match text with
  | c :: _ =>
    if !c.isDigit then none
    else
      match text.dropWhile isDecimal with
      | '.' :: rest =>
        let stop :=
          match rest with
          | c :: _ => c == '.' || isWordStart c
          | [] => false
        if stop then none
        else
          match rest.dropWhile isDecimal with
          | 'e' :: after | 'E' :: after =>
            exponent? (some (rest.dropWhile isDecimal)) after >>= numberEnd?
          | after => numberEnd? after
      | 'e' :: after | 'E' :: after => exponent? none after >>= numberEnd?
      | _ => none
  | [] => none

/-! ## Literals -/

def textLiteral (scanned : List Char × List Char) : LiteralKind × List Char :=
  (.text (String.ofList scanned.1), skipSuffix scanned.2)

def otherLiteral (rest : List Char) : LiteralKind × List Char := (.other, rest)

def literal? (text : List Char) : Option (LiteralKind × List Char) :=
  let quotedText := match text with
    | '"' :: rest => textLiteral <$> quoted? textRules false [] rest
    | 'r' :: rest => textLiteral <$> hashed? textRules rest
    | _ => none
  let quotedBytes := match text with
    | 'b' :: '"' :: rest => (quoted? byteRules false [] rest).map fun s => otherLiteral (skipSuffix s.2)
    | 'b' :: 'r' :: rest => (hashed? byteRules rest).map fun s => otherLiteral (skipSuffix s.2)
    | 'c' :: '"' :: rest => (quoted? cRules false [] rest).map fun s => otherLiteral (skipSuffix s.2)
    | 'c' :: 'r' :: rest => (hashed? cRules rest).map fun s => otherLiteral (skipSuffix s.2)
    | _ => none
  let single := match text with
    | 'b' :: '\'' :: rest => (single? byteRules rest).map fun rest => otherLiteral (skipSuffix rest)
    | '\'' :: rest => (single? textRules rest).map fun rest => otherLiteral (skipSuffix rest)
    | _ => none
  quotedText <|> quotedBytes <|> single <|> otherLiteral <$> float? text <|> otherLiteral <$> integer? text

/-! ## Punctuation -/

def markSymbols : List Char := "~!@#$%^&*-=+|;:,<.>/?'".toList

/-- A character of punctuation; the start of a comment is none. -/
def mark? : List Char → Option (Char × List Char)
  | '/' :: '/' :: _ => none
  | '/' :: '*' :: _ => none
  | c :: rest => if markSymbols.contains c then some (c, rest) else none
  | [] => none

/-- A character of punctuation as a token. An apostrophe belongs to the word after it. -/
def punctuation? (text : List Char) : Option (Token × List Char) :=
  match mark? text with
  | none => none
  | some ('\'', rest) =>
    match anyWord? rest with
    | some (_, '\'' :: _) => none
    | some (_, '#' :: _) =>
      if ['r', '#'].isPrefixOf rest then some (.mark '\'' true, rest) else none
    | some _ => some (.mark '\'' true, rest)
    | none => none
  | some (symbol, rest) => some (.mark symbol (mark? rest).isSome, rest)

/-! ## Comments -/

/-- Without the line end, the rest of the line and what follows it. -/
def line (done : List Char) : List Char → List Char × List Char
  | [] => (done.reverse, [])
  | '\n' :: rest => (done.reverse, '\n' :: rest)
  | '\r' :: '\n' :: rest => (done.reverse, '\n' :: rest)
  | c :: rest => line (c :: done) rest

def block? (depth : Nat) (done : List Char) : List Char → Option (List Char × List Char)
  | [] => none
  | '/' :: '*' :: rest => block? (depth + 1) ('*' :: '/' :: done) rest
  | '*' :: '/' :: rest =>
    match depth with
    | 0 => some (done.reverse, rest)
    | depth + 1 => block? depth ('/' :: '*' :: done) rest
  | c :: rest => block? depth (c :: done) rest

/-- A comment that says nothing about the code around it. -/
def plainComment? : List Char → Option Rest
  | '/' :: '/' :: '/' :: '/' :: rest => some (some (line [] rest).2)
  | '/' :: '/' :: '/' :: _ => none
  | '/' :: '/' :: '!' :: _ => none
  | '/' :: '/' :: rest => some (some (line [] rest).2)
  | '/' :: '*' :: '*' :: '/' :: rest => some (some rest)
  | '/' :: '*' :: '*' :: '*' :: rest => some ((block? 0 [] ('*' :: '*' :: rest)).map (·.2))
  | '/' :: '*' :: '*' :: _ => none
  | '/' :: '*' :: '!' :: _ => none
  | '/' :: '*' :: rest => some ((block? 0 [] rest).map (·.2))
  | _ => none

def isSpace (c : Char) : Bool := Text.isBlank c || c == '\u200e' || c == '\u200f'

/-- Drops white space and plain comments. A comment without an end stays. -/
def skipSpace : Nat → List Char → List Char
  | 0, text => text
  | fuel + 1, text =>
    match plainComment? text with
    | some (some rest) => skipSpace fuel rest
    | some none => text
    | none =>
      match text with
      | c :: rest => if isSpace c then skipSpace fuel rest else text
      | [] => []

/-- No carriage return but before a line end. -/
def wellFormedLines : List Char → Bool
  | [] => true
  | '\r' :: '\n' :: rest => wellFormedLines rest
  | '\r' :: _ => false
  | _ :: rest => wellFormedLines rest

/-- A documentation comment: whether it speaks of what surrounds it, and its text. -/
def documentation? (text : List Char) : Option (Bool × List Char × List Char) :=
  let found := match text with
    | '/' :: '/' :: '!' :: rest => some (true, line [] rest)
    | '/' :: '*' :: '!' :: rest => (block? 0 [] rest).map fun c => (true, c)
    | '/' :: '/' :: '/' :: '/' :: _ => none
    | '/' :: '/' :: '/' :: rest => some (false, line [] rest)
    | '/' :: '*' :: '*' :: '*' :: _ => none
    | '/' :: '*' :: '*' :: rest => (block? 0 [] rest).map fun c => (false, c)
    | _ => none
  found.bind fun (inner, comment, rest) =>
    if wellFormedLines comment then some (inner, comment, rest) else none

def documentationTokens (inner : Bool) (comment : List Char) : List Token :=
  let text := String.ofList comment
  .mark '#' false :: (if inner then [.mark '!' false] else []) ++
    [.opening .bracket, .word "doc", .mark '=' false, .literal (.text text) (quoteText text),
      .closing .bracket]

/-! ## Token lists -/

def leaf? (text : List Char) : Option (Token × List Char) :=
  match literal? text with
  | some (kind, rest) =>
    some (.literal kind (String.ofList (text.take (text.length - rest.length))), rest)
  | none =>
    match punctuation? text with
    | some found => some found
    | none => (word? text).map fun (word, rest) => (.word (String.ofList word), rest)

/-- The tokens of a text inside the given open brackets, innermost first. -/
def lexAll (fuel : Nat) (opened : List Delimiter) (done : List Token) (text : List Char) :
    Option (List Token) :=
  match fuel with
  | 0 => none
  | fuel + 1 =>
    match skipSpace fuel text with
    | [] => if opened.isEmpty then some done.reverse else none
    | c :: rest =>
      match documentation? (c :: rest) with
      | some (inner, comment, rest) =>
        lexAll fuel opened ((documentationTokens inner comment).reverse ++ done) rest
      | none =>
        match Delimiter.ofOpening? c, Delimiter.ofClosing? c with
        | some d, _ => lexAll fuel (d :: opened) (.opening d :: done) rest
        | none, some d =>
          match opened with
          | open' :: opened =>
            if open' = d then lexAll fuel opened (.closing d :: done) rest else none
          | [] => none
        | none, none =>
          match leaf? (c :: rest) with
          | some (token, rest) => lexAll fuel opened (token :: done) rest
          | none => none

def dropMark : List Char → List Char
  | '\ufeff' :: rest => rest
  | text => text

def lex (text : String) : Option (List Token) :=
  let chars := dropMark text.toList
  lexAll (chars.length + 1) [] [] chars

end RowFactory.Code
