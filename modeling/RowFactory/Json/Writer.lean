import RowFactory.Json.Document

/-! # Writing documents

Two spaces of indentation for each level, every member and every list value on a line of its own.
-/

namespace RowFactory.Json

/-- A control character is written by its number, unless it has a short form. -/
def writeChar (c : Char) : List Char :=
  match c with
  | '"' => ['\\', '"']
  | '\\' => ['\\', '\\']
  | '\x08' => ['\\', 'b']
  | '\x0c' => ['\\', 'f']
  | '\n' => ['\\', 'n']
  | '\r' => ['\\', 'r']
  | '\t' => ['\\', 't']
  | c =>
    if c.toNat < 0x20 then
      ['\\', 'u', '0', '0', if c.toNat < 0x10 then '0' else '1', Nat.digitChar (c.toNat % 16)]
    else [c]

def writeText (text : String) : List Char := '"' :: text.toList.flatMap writeChar ++ ['"']

def newLine (depth : Nat) : List Char := '\n' :: List.replicate (2 * depth) ' '

def writeNumeral (n : Numeral) : List Char :=
  let digits := Nat.toDigits 10 n.digits
  let digits := if n.negative then '-' :: digits else digits
  if n.integral then digits else digits ++ 'e' :: (toString n.exponent).toList

mutual

def writeValue (depth : Nat) : Document → List Char
  | .null => ['n', 'u', 'l', 'l']
  | .bool true => ['t', 'r', 'u', 'e']
  | .bool false => ['f', 'a', 'l', 's', 'e']
  | .number n => writeNumeral n
  | .string text => writeText text
  | .array [] _ => ['[', ']']
  | .array (item :: items) _ =>
    '[' :: newLine (depth + 1) ++ writeValue (depth + 1) item ++ writeItems (depth + 1) items ++
      newLine depth ++ [']']
  | .object [] _ => ['\x7b', '\x7d']
  | .object ((key, value) :: members) _ =>
    '\x7b' :: newLine (depth + 1) ++ writeValue (depth + 1) key ++ ':' :: ' ' ::
      writeValue (depth + 1) value ++ writeMembers (depth + 1) members ++ newLine depth ++ ['\x7d']
  | .faulty _ _ => []

def writeItems (depth : Nat) : List Document → List Char
  | [] => []
  | item :: items => ',' :: newLine depth ++ writeValue depth item ++ writeItems depth items

def writeMembers (depth : Nat) : List (Document × Document) → List Char
  | [] => []
  | (key, value) :: members =>
    ',' :: newLine depth ++ writeValue depth key ++ ':' :: ' ' :: writeValue depth value ++
      writeMembers depth members

end

def write (d : Document) : String := String.ofList (writeValue 0 d)

namespace Document

def list (items : List Document) : Document := .array items .whole

/-- An object whose members have the given names; absent members are left out. -/
def record (members : List (String × Option Document)) : Document :=
  .object (members.filterMap fun (name, value?) => value?.map fun value => (.string name, value)) .whole

def text (text : String) : Document := .string text

end Document

end RowFactory.Json
