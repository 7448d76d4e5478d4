import RowFactory.Json.Reader
import RowFactory.Toml.Table

/-! # Words, numbers and moments in settings

Every function takes the characters still unread and gives what it made of them together with the rest.
-/

namespace RowFactory.Toml

def isSpace (c : Char) : Bool := c = ' ' || c = '\t'

def skipSpace (text : List Char) : List Char := text.dropWhile isSpace

/-- A character that may stand in a comment or a one-line text. -/
def isPlain (c : Char) : Bool := c = '\t' || (' ' ≤ c && c ≠ '\x7f')

def newline? : List Char → Option (List Char)
  | '\n' :: rest => some rest
  | '\r' :: '\n' :: rest => some rest
  | _ => none

def afterWord? : List Char → List Char → Option (List Char)
  | [], text => some text
  | w :: word, c :: text => if w = c then afterWord? word text else none
  | _ :: _, [] => none

/-- Digits with single underscores between them. -/
def wellSpaced : List Char → Bool
  | [] => false
  | [c] => c ≠ '_'
  | c :: d :: rest => (c ≠ '_' || d ≠ '_') && wellSpaced (d :: rest)

/-- A run of digits, in which underscores may stand between two of them. -/
def readRun (isDigit : Char → Bool) (text : List Char) : Option (List Char × List Char) :=
  let belongs (c : Char) := isDigit c || c = '_'
  let run := text.takeWhile belongs
  if run.head? ≠ some '_' ∧ wellSpaced run then
    some (run.filter (· ≠ '_'), text.dropWhile belongs)
  else none

/-- A run of digits without needless zeros in front. -/
def readWholePart (text : List Char) : Option (List Char × List Char) := do
  let (digits, rest) ← readRun Char.isDigit text
  if digits.head? = some '0' ∧ digits.length ≠ 1 then none else some (digits, rest)

def readRadix (base : Nat) (text : List Char) : Option (Value × List Char) := do
  let isDigit (c : Char) := ((Json.hexValue? c).filter (· < base)).isSome
  let (digits, rest) ← readRun isDigit text
  let n := digits.foldl (fun n c => n * base + (Json.hexValue? c).getD 0) 0
  if n < Nat.pow 2 63 then some (.number ⟨false, n, 0, true⟩, rest) else none

def readPower (text : List Char) : Option (Int × List Char) :=
  let run (sign : Int) (text : List Char) : Option (Int × List Char) := do
    let (digits, rest) ← readRun Char.isDigit text
    return (sign * Json.naturalOf digits, rest)
  match text with
  | '-' :: rest => run (-1) rest
  | '+' :: rest => run 1 rest
  | _ => run 1 text

/-- A number with a point or a power; none may round to a positive infinity. -/
def finishFraction (negative : Bool) (digits : List Char) (places : Nat) (text : List Char) :
    Option (Value × List Char) := do
  let (power, rest) ←
    match text with
    | 'e' :: rest | 'E' :: rest => readPower rest
    | _ => some (0, text)
  let numeral : Json.Numeral := ⟨negative, Json.naturalOf digits, power - places, false⟩
  if negative ∨ numeral.bits?.isSome then some (.number numeral, rest) else none

def readDecimal (negative : Bool) (text : List Char) : Option (Value × List Char) := do
  let (whole, rest) ← readWholePart text
  match rest with
  | '.' :: rest => do
    let (places, rest) ← readRun Char.isDigit rest
    finishFraction negative (whole ++ places) places.length rest
  | 'e' :: _ | 'E' :: _ => finishFraction negative whole 0 rest
  | _ =>
    let n := Json.naturalOf whole
    let limit := Nat.pow 2 63
    if n < limit ∨ (negative ∧ n = limit) then some (.number ⟨negative, n, 0, true⟩, rest) else none

def readSigned (negative : Bool) : List Char → Option (Value × List Char)
  | 'i' :: 'n' :: 'f' :: rest => some (.special, rest)
  | 'n' :: 'a' :: 'n' :: rest => some (.special, rest)
  | text => readDecimal negative text

def readNumber : List Char → Option (Value × List Char)
  | '0' :: 'x' :: rest => readRadix 16 rest
  | '0' :: 'o' :: rest => readRadix 8 rest
  | '0' :: 'b' :: rest => readRadix 2 rest
  | '+' :: rest => readSigned false rest
  | '-' :: rest => readSigned true rest
  | text => readSigned false text

def readField (count low high : Nat) (text : List Char) : Option (Nat × List Char) :=
  let digits := text.take count
  let n := Json.naturalOf digits
  if digits.length = count ∧ digits.all Char.isDigit ∧ low ≤ n ∧ n ≤ high then
    some (n, text.drop count)
  else none

def isLeapYear (year : Nat) : Bool := year % 4 = 0 && (year % 100 ≠ 0 || year % 400 = 0)

def daysIn (year month : Nat) : Nat :=
  if month = 2 then if isLeapYear year then 29 else 28
  else if [4, 6, 9, 11].contains month then 30
  else 31

def skipDate (text : List Char) : Option (List Char) := do
  let (year, rest) ← readField 4 0 9999 text
  let rest ← afterWord? ['-'] rest
  let (month, rest) ← readField 2 1 12 rest
  let rest ← afterWord? ['-'] rest
  let (_, rest) ← readField 2 1 (daysIn year month) rest
  return rest

def skipParts (text : List Char) : List Char :=
  match text with
  | '.' :: c :: rest => if c.isDigit then rest.dropWhile Char.isDigit else text
  | _ => text

def skipTime (text : List Char) : Option (List Char) := do
  let (_, rest) ← readField 2 0 23 text
  let rest ← afterWord? [':'] rest
  let (_, rest) ← readField 2 0 59 rest
  let rest ← afterWord? [':'] rest
  let (_, rest) ← readField 2 0 60 rest
  return skipParts rest

def skipOffset (text : List Char) : Option (List Char) :=
  let distance (text : List Char) : Option (List Char) := do
    let (_, rest) ← readField 2 0 23 text
    let rest ← afterWord? [':'] rest
    let (_, rest) ← readField 2 0 59 rest
    return rest
  match text with
  | 'Z' :: rest | 'z' :: rest => some rest
  | '+' :: rest | '-' :: rest => distance rest
  | _ => some text

def skipTimeOfDate (text : List Char) : Option (List Char) :=
  match text with
  | c :: rest =>
    if c = 'T' ∨ c = 't' ∨ c = ' ' then
      match skipTime rest with
      | some rest => skipOffset rest
      | none => some text
    else some text
  | [] => some []

def skipMoment (text : List Char) : Option (List Char) :=
  match skipDate text with
  | some rest => skipTimeOfDate rest
  | none => skipTime text

def readScalar (text : List Char) : Option (Value × List Char) :=
  match skipMoment text with
  | some rest => some (.special, rest)
  | none => readNumber text

end RowFactory.Toml
