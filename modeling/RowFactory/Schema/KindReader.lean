import RowFactory.Naming
import RowFactory.Json.Reader
import RowFactory.Json.Decoding

/-! # Field kinds as texts

A kind is a text value with its tag, or an object that gives the tag an empty value.
-/

namespace RowFactory

open Json

def decodeTag : Decoder FieldKind
  | .string text =>
    match FieldKind.all.find? (·.tag = text) with
    | some kind => .ok kind
    | none =>
      let tags := FieldKind.all.map fun kind => s!"`{kind.tag}`"
      .error (.mismatch (s!"unknown variant `{text}`, expected one of " ++ ", ".intercalate tags))
  | d => mismatch d "variant identifier"

def decodeNothing : Decoder Unit
  | .null => .ok ()
  | d => mismatch d "unit"

/-- The tag and its empty value, after the opening bracket. -/
def readTagged (fuel : Nat) (text : List Char) : Except Json.Error (FieldKind × List Char) := do
  let (key, rest) := readValue fuel text
  let kind ← decodeTag key
  match skipGap rest with
  | ':' :: rest =>
    let (value, rest) := readValue fuel rest
    decodeNothing value
    match skipGap rest with
    | '\x7d' :: rest => return (kind, rest)
    | rest => throw (.fault (missing rest))
  | rest => throw (.fault (missing rest))

def FieldKind.read (text : String) : Except Json.Error FieldKind := do
  let chars := text.toList
  let fuel := 2 * chars.length + 2
  let (kind, rest) ←
    match skipGap chars with
    | '"' :: _ =>
      let (key, rest) := readValue fuel chars
      pure (← decodeTag key, rest)
    | '\x7b' :: rest => readTagged fuel rest
    | rest => throw (.fault (missing rest))
  if (skipGap rest).isEmpty then return kind else throw (.fault .malformed)

end RowFactory
