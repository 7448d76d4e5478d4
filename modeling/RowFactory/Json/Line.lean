import RowFactory.Ascending
import RowFactory.Json.Reader
import RowFactory.Json.Writer

/-! # Documents on one line

A program that answers requests reads a document from each line and writes one on a line. What it has read
is a plain value, whose members stand in ascending order of their keys.
-/

namespace RowFactory.Json

mutual

/-- The value that a document stands for. Of two members with one key the later one counts. -/
def Document.settle : Document → Document
  | .array items _ => .array (settleItems items) .whole
  | .object members _ =>
    .object ((settleMembers members []).map fun (key, value) => (.string key, value)) .whole
  | d => d

def settleItems : List Document → List Document
  | [] => []
  | item :: items => item.settle :: settleItems items

def settleMembers : List (Document × Document) → List (String × Document) → List (String × Document)
  | [], values => values
  | (.string key, value) :: members, values =>
    settleMembers members (Ascending.put key value.settle values)
  | _ :: members, values => settleMembers members values

end

mutual

def lineValue : Document → List Char
  | .null | .faulty _ _ => "null".toList
  | .bool true => "true".toList
  | .bool false => "false".toList
  | .number n => writeNumeral n
  | .string text => writeText text
  | .array items _ => '[' :: lineItems items ++ [']']
  | .object members _ => '\x7b' :: lineMembers members ++ ['\x7d']

def lineItems : List Document → List Char
  | [] => []
  | [item] => lineValue item
  | item :: items => lineValue item ++ ',' :: lineItems items

def lineMembers : List (Document × Document) → List Char
  | [] => []
  | [(key, value)] => lineValue key ++ ':' :: lineValue value
  | (key, value) :: members => lineValue key ++ ':' :: lineValue value ++ ',' :: lineMembers members

end

def readLine (line : String) : Document := (read line).1.settle

def writeLine (d : Document) : String := String.ofList (lineValue d)

end RowFactory.Json
