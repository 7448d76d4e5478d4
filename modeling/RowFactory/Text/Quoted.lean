import RowFactory.Text.Letter
import RowFactory.Text.DisplayTable

/-! # Quoted text

Text shown between double quotes for a person to read: quotes, backslashes and line ends are escaped,
and so is every character without a visible form of its own.
-/

namespace RowFactory.Text

def hexDigits (n : Nat) : List Char := Nat.toDigits 16 n

def isVisible (c : Char) : Bool :=
  if isAscii c then 0x20 ≤ c.toNat && c.toNat != 0x7F
  else !(inRanges combiningRanges c.toNat || inRanges unprintableRanges c.toNat)

def quoteChar (c : Char) : List Char :=
  match c with
  | '\x00' => ['\\', '0']
  | '\t' => ['\\', 't']
  | '\r' => ['\\', 'r']
  | '\n' => ['\\', 'n']
  | '"' => ['\\', '"']
  | '\\' => ['\\', '\\']
  | c => if isVisible c then [c] else ['\\', 'u', '\x7b'] ++ hexDigits c.toNat ++ ['\x7d']

def quoted (text : String) : String :=
  String.ofList ('"' :: text.toList.flatMap quoteChar ++ ['"'])

end RowFactory.Text
