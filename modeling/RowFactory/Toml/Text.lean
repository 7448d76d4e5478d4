import RowFactory.Toml.Scalar

/-! # Texts in settings

Two quotes, each for texts of one line and, tripled, of several lines. Only the double quote knows
escapes. In a text of several lines one or two quotes may stand anywhere, also right before the three that
close it.
-/

namespace RowFactory.Toml

def character? (digits : List Char) : Option Char := do
  let values ← digits.mapM Json.hexValue?
  let n := values.foldl (fun n v => n * 16 + v) 0
  if n.isValidChar then some (Char.ofNat n) else none

def readEscape : List Char → Option (Char × List Char)
  | '\\' :: rest => some ('\\', rest)
  | '"' :: rest => some ('"', rest)
  | 'b' :: rest => some ('\x08', rest)
  | 'f' :: rest => some ('\x0c', rest)
  | 'n' :: rest => some ('\n', rest)
  | 'r' :: rest => some ('\r', rest)
  | 't' :: rest => some ('\t', rest)
  | 'u' :: rest =>
    if (rest.take 4).length = 4 then (character? (rest.take 4)).map fun c => (c, rest.drop 4) else none
  | 'U' :: rest =>
    if (rest.take 8).length = 8 then (character? (rest.take 8)).map fun c => (c, rest.drop 8) else none
  | _ => none

def skipLines : List Char → List Char
  | ' ' :: rest => skipLines rest
  | '\t' :: rest => skipLines rest
  | '\n' :: rest => skipLines rest
  | '\r' :: '\n' :: rest => skipLines rest
  | rest => rest

/-- The inside of a text of one line and its closing quote. The fuel bounds the number of characters. -/
def readLine (quote : Char) (done : List Char) : Nat → List Char → Option (String × List Char)
  | 0, _ => none
  | fuel + 1, text =>
    match text with
    | [] => none
    | c :: rest =>
      if c = quote then some (String.ofList done.reverse, rest)
      else if c = '\\' ∧ quote = '"' then do
        let (c, rest) ← readEscape rest
        readLine quote (c :: done) fuel rest
      else if isPlain c then readLine quote (c :: done) fuel rest
      else none

def readBlock (quote : Char) (done : List Char) : Nat → List Char → Option (String × List Char)
  | 0, _ => none
  | fuel + 1, text =>
    match text with
    | [] => none
    | c :: rest =>
      if c = quote then
        let count := (text.takeWhile (· = quote)).length
        let after := text.dropWhile (· = quote)
        if count < 3 then readBlock quote (List.replicate count quote ++ done) fuel after
        else if count < 6 then
          some (String.ofList (List.replicate (count - 3) quote ++ done).reverse, after)
        else none
      else if c = '\\' ∧ quote = '"' then
        match newline? (skipSpace rest) with
        | some rest => readBlock quote done fuel (skipLines rest)
        | none => do
          let (c, rest) ← readEscape rest
          readBlock quote (c :: done) fuel rest
      else if isPlain c then readBlock quote (c :: done) fuel rest
      else do
        let rest ← newline? text
        readBlock quote ('\n' :: done) fuel rest

def readQuoted (quote : Char) (text : List Char) : Option (String × List Char) := do
  let rest ← afterWord? [quote] text
  readLine quote [] (rest.length + 1) rest

/-- A text with the given quote, of one line or of several. A line that ends right after the opening quotes
does not count. -/
def readText (quote : Char) (text : List Char) : Option (String × List Char) :=
  match afterWord? [quote, quote, quote] text with
  | some rest => readBlock quote [] (rest.length + 1) ((newline? rest).getD rest)
  | none => readQuoted quote text

end RowFactory.Toml
