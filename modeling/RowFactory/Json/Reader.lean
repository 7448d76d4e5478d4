import RowFactory.Json.Document

/-! # Reading a text as a document

Every function takes the characters still unread and gives back what it made of them together with the
rest. After a cut the rest has no meaning and is empty.
-/

namespace RowFactory.Json

def isGap (c : Char) : Bool := c == ' ' || c == '\n' || c == '\t' || c == '\r'

def skipGap (text : List Char) : List Char := text.dropWhile isGap

def hexValue? (c : Char) : Option Nat :=
  if '0' ≤ c ∧ c ≤ '9' then some (c.toNat - '0'.toNat)
  else if 'a' ≤ c ∧ c ≤ 'f' then some (c.toNat - 'a'.toNat + 10)
  else if 'A' ≤ c ∧ c ≤ 'F' then some (c.toNat - 'A'.toNat + 10)
  else none

def unit? (a b c d : Char) : Option Nat := do
  let a ← hexValue? a
  let b ← hexValue? b
  let c ← hexValue? c
  let d ← hexValue? d
  return ((a * 16 + b) * 16 + c) * 16 + d

def byteLength (text : List Char) : Nat := text.foldr (fun c length => c.utf8Size + length) 0

def unitFault (text : List Char) : Fault :=
  if byteLength text < 4 then .truncated else .malformed

def isHighHalf (n : Nat) : Bool := 0xD800 ≤ n && n ≤ 0xDBFF

def isLowHalf (n : Nat) : Bool := 0xDC00 ≤ n && n ≤ 0xDFFF

def joinHalves (high low : Nat) : Nat := 0x10000 + (high - 0xD800) * 0x400 + (low - 0xDC00)

def lowHalf? : List Char → Option Nat
  | '\\' :: 'u' :: a :: b :: c :: d :: _ => (unit? a b c d).filter isLowHalf
  | _ => none

/-- The fault of a high half that this text follows, where the low half is missing. -/
def lonelyFault : List Char → Fault
  | [] => .truncated
  | ['\\'] => .truncated
  | '\\' :: 'u' :: rest =>
    match rest with
    | a :: b :: c :: d :: _ => if (unit? a b c d).isSome then .malformed else unitFault rest
    | _ => unitFault rest
  | _ => .malformed

def simpleEscape? : Char → Option Char
  | '"' => some '"'
  | '\\' => some '\\'
  | '/' => some '/'
  | 'b' => some '\x08'
  | 'f' => some '\x0c'
  | 'n' => some '\n'
  | 'r' => some '\r'
  | 't' => some '\t'
  | _ => none

def cutText (flaw : Option Fault) (fault : Fault) : Document × List Char :=
  (.faulty (flaw.getD fault) (some fault), [])

/-- The inside of a text value up to its closing quote. A half of a pair that stands alone is a flaw: it
spoils the value and not the document. -/
def readText (done : List Char) (flaw : Option Fault) : List Char → Document × List Char
  | [] => cutText flaw .truncated
  | '"' :: rest =>
    match flaw with
    | none => (.string (String.ofList done.reverse), rest)
    | some fault => (.faulty fault none, rest)
  | ['\\'] => cutText flaw .truncated
  | '\\' :: 'u' :: a :: b :: c :: d :: rest =>
    match unit? a b c d with
    | none => cutText flaw (unitFault (a :: b :: c :: d :: rest))
    | some n =>
      if isHighHalf n then
        match lowHalf? rest with
        | some low => readText (Char.ofNat (joinHalves n low) :: done) flaw (rest.drop 6)
        | none => readText done (flaw <|> some (lonelyFault rest)) rest
      else if isLowHalf n then readText done (flaw <|> some .malformed) rest
      else readText (Char.ofNat n :: done) flaw rest
  | '\\' :: 'u' :: short => cutText flaw (unitFault short)
  | '\\' :: c :: rest =>
    match simpleEscape? c with
    | some plain => readText (plain :: done) flaw rest
    | none => cutText flaw .malformed
  | c :: rest =>
    if c.toNat < 0x20 then cutText flaw .malformed else readText (c :: done) flaw rest
termination_by text => text.length
decreasing_by all_goals simp +arith

def naturalOf (digits : List Char) : Nat :=
  digits.foldl (fun n c => n * 10 + (c.toNat - '0'.toNat)) 0

/-- A numeral that does not go on as it must. Whoever passes over numbers does not tell an early end
from a wrong character. -/
def cutNumeral : List Char → Document × List Char
  | [] => (.faulty .truncated (some .malformed), [])
  | _ => (.faulty .malformed (some .malformed), [])

def readExponent (negative : Bool) (digits : Nat) (places : Nat) (integral : Bool) (text : List Char) :
    Document × List Char :=
  match text with
  | c :: afterMark =>
    if c == 'e' || c == 'E' then
      let (down, afterSign) :=
        match afterMark with
        | '-' :: rest => (true, rest)
        | '+' :: rest => (false, rest)
        | rest => (false, rest)
      let power := afterSign.takeWhile Char.isDigit
      if power.isEmpty then cutNumeral afterSign
      else
        let size : Int := naturalOf power
        (.number ⟨negative, digits, (if down then -size else size) - places, false⟩,
          afterSign.dropWhile Char.isDigit)
    else (.number ⟨negative, digits, -places, integral⟩, text)
  | [] => (.number ⟨negative, digits, -places, integral⟩, [])

def readFraction (negative : Bool) (whole : List Char) (text : List Char) : Document × List Char :=
  match text with
  | '.' :: rest =>
    let places := rest.takeWhile Char.isDigit
    if places.isEmpty then cutNumeral rest
    else readExponent negative (naturalOf (whole ++ places)) places.length false (rest.dropWhile Char.isDigit)
  | _ => readExponent negative (naturalOf whole) 0 true text

def readUnsigned (negative : Bool) (text : List Char) : Document × List Char :=
  match text with
  | '0' :: rest =>
    if (rest.head?.map Char.isDigit).getD false then cutNumeral rest
    else readFraction negative ['0'] rest
  | c :: _ =>
    if c.isDigit then readFraction negative (text.takeWhile Char.isDigit) (text.dropWhile Char.isDigit)
    else cutNumeral text
  | [] => cutNumeral []

def readNumeral (text : List Char) : Document × List Char :=
  match text with
  | '-' :: rest => readUnsigned true rest
  | _ => readUnsigned false text

def cutBoth (fault : Fault) : Document × List Char := (.faulty fault (some fault), [])

def readWord (value : Document) : List Char → List Char → Document × List Char
  | [], text => (value, text)
  | _ :: _, [] => cutBoth .truncated
  | w :: word, c :: text => if w == c then readWord value word text else cutBoth .malformed

def missing : List Char → Fault
  | [] => .truncated
  | _ => .malformed

mutual

/-- One value. The fuel bounds the number of nested and consecutive values. -/
def readValue : Nat → List Char → Document × List Char
  | 0, _ => cutBoth .malformed
  | fuel + 1, text =>
    match skipGap text with
    | [] => cutBoth .truncated
    | '"' :: rest => readText [] none rest
    | 'n' :: rest => readWord .null ['u', 'l', 'l'] rest
    | 't' :: rest => readWord (.bool true) ['r', 'u', 'e'] rest
    | 'f' :: rest => readWord (.bool false) ['a', 'l', 's', 'e'] rest
    | '[' :: rest =>
      match skipGap rest with
      | ']' :: rest' => (.array [] .closed, rest')
      | rest' =>
        let (items, ending, rest') := readItems fuel rest'
        (.array items ending, rest')
    | '\x7b' :: rest =>
      match skipGap rest with
      | '\x7d' :: rest' => (.object [] .closed, rest')
      | '"' :: rest' =>
        let (members, ending, rest') := readMembers fuel rest'
        (.object members ending, rest')
      | rest' => (.object [] (.cut (missing rest')), [])
    | c :: rest => if c == '-' || c.isDigit then readNumeral (c :: rest) else cutBoth .malformed

def readItems : Nat → List Char → List Document × Ending × List Char
  | 0, _ => ([], .cut .malformed, [])
  | fuel + 1, text =>
    let (item, rest) := readValue fuel text
    match item.stop? with
    | some fault => ([item], .cut fault, [])
    | none =>
      match skipGap rest with
      | ']' :: rest' => ([item], .closed, rest')
      | ',' :: rest' =>
        match skipGap rest' with
        | [] => ([item], .cutAfterComma, [])
        | ']' :: _ => ([item], .cut .malformed, [])
        | rest' =>
          let (items, ending, rest') := readItems fuel rest'
          (item :: items, ending, rest')
      | rest' => ([item], .cut (missing rest'), [])

/-- The members of an object, at least one; the opening quote of its key has been seen. -/
def readMembers : Nat → List Char → List (Document × Document) × Ending × List Char
  | 0, _ => ([], .cut .malformed, [])
  | fuel + 1, text =>
    let (key, rest) := readText [] none text
    match key.stop? with
    | some fault => ([(key, key)], .cut fault, [])
    | none =>
      match skipGap rest with
      | ':' :: rest' =>
        let (value, rest') := readValue fuel rest'
        match value.stop? with
        | some fault => ([(key, value)], .cut fault, [])
        | none =>
          match skipGap rest' with
          | '\x7d' :: rest' => ([(key, value)], .closed, rest')
          | ',' :: rest' =>
            match skipGap rest' with
            | '"' :: rest' =>
              let (members, ending, rest') := readMembers fuel rest'
              ((key, value) :: members, ending, rest')
            | rest' => ([(key, value)], .cut (missing rest'), [])
          | rest' => ([(key, value)], .cut (missing rest'), [])
      | rest' => ([(key, (cutBoth (missing rest')).1)], .cut (missing rest'), [])

end

/-- A text as a document, and whether anything but white space follows it. -/
def read (text : String) : Document × Bool :=
  let chars := text.toList
  let (document, rest) := readValue (2 * chars.length + 2) chars
  (document, !(skipGap rest).isEmpty)

end RowFactory.Json
