import RowFactory.Text.LetterTable

/-! # Letters

Classes of characters and the maps between upper and lower case. ASCII characters are decided by
arithmetic alone; only the others look into a table.
-/

namespace RowFactory.Text

def inRanges (ranges : Array (Nat × Nat)) (n : Nat) : Bool :=
  ranges.any fun (first, last) => first ≤ n && n ≤ last

def inRuns (runs : Array (Nat × Nat × Nat)) (n : Nat) : Bool :=
  runs.any fun (first, last, step) => first ≤ n && n ≤ last && (n - first) % step == 0

def isAscii (c : Char) : Bool := c.toNat < 0x80

def isAlphanumeric (c : Char) : Bool :=
  if isAscii c then c.isAlphanum else inRanges alphanumericRanges c.toNat

def isLowercase (c : Char) : Bool :=
  if isAscii c then c.isLower else inRuns lowercaseRuns c.toNat

def isUppercase (c : Char) : Bool :=
  if isAscii c then c.isUpper else inRuns uppercaseRuns c.toNat

/-- White space of any script: separators, line ends and tabs. -/
def isBlank (c : Char) : Bool :=
  let n := c.toNat
  (9 ≤ n && n ≤ 13) || n == 0x20 || n == 0x85 || n == 0xA0 || n == 0x1680 ||
    (0x2000 ≤ n && n ≤ 0x200A) || n == 0x2028 || n == 0x2029 || n == 0x202F || n == 0x205F || n == 0x3000

def shifted (shifts : Array (Nat × Nat × Nat × Nat)) (n : Nat) : Option Nat :=
  (shifts.find? fun (first, last, step, _) => first ≤ n && n ≤ last && (n - first) % step == 0).map
    fun (first, _, _, image) => image + (n - first)

def caseImage (expansions : Array (Nat × List Nat)) (shifts : Array (Nat × Nat × Nat × Nat))
    (c : Char) : List Char :=
  match expansions.find? fun (n, _) => n == c.toNat with
  | some (_, image) => image.map Char.ofNat
  | none => [((shifted shifts c.toNat).map Char.ofNat).getD c]

def uppercase (c : Char) : List Char :=
  if isAscii c then [c.toUpper] else caseImage upperExpansions upperShifts c

def lowercase (c : Char) : List Char :=
  if isAscii c then [c.toLower] else caseImage lowerExpansions lowerShifts c

def shout (text : String) : String :=
  String.ofList (text.toList.flatMap uppercase)

def trimBlank (text : String) : String :=
  String.ofList ((text.toList.dropWhile isBlank).reverse.dropWhile isBlank).reverse

end RowFactory.Text
