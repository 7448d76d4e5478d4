/-! # Shortest decimals

The shortest decimal that reads back as a given binary number `mantissa * 2 ^ exponent`. Of the
decimals with the fewest digits the nearest one is taken. All arithmetic is exact.
-/

namespace RowFactory.Text

/-- A nonnegative decimal `digits * 10 ^ exponent`. -/
structure Decimal where
  digits : Nat
  exponent : Int
  deriving DecidableEq, Repr

/-- A positive binary64 number `mantissa * 2 ^ exponent`, with a mantissa of at most 53 bits. -/
structure Binary where
  mantissa : Nat
  exponent : Int
  deriving DecidableEq, Repr

namespace Binary

def least : Int := -1074

/-- The number that 64 bits stand for; nothing for zero, infinities and what is no number. -/
def ofBits? (bits : Nat) : Option Binary :=
  let field : Nat := bits / Nat.pow 2 52 % Nat.pow 2 11
  let fraction : Nat := bits % Nat.pow 2 52
  if field = 2047 then none
  else if field = 0 then if fraction = 0 then none else some ⟨fraction, least⟩
  else some ⟨Nat.pow 2 52 + fraction, (field : Int) - 1075⟩

def scaled (n : Nat) (e : Int) : Nat × Nat :=
  if 0 ≤ e then (n * Nat.pow 2 e.toNat, 1) else (n, Nat.pow 2 (-e).toNat)

/-- The open or closed interval of numbers that round to `b`, as numerators over four times the
denominator of `b`. The gap below a power of two is half as wide. -/
def interval (b : Binary) : Nat × Nat :=
  let below := if b.mantissa = Nat.pow 2 52 ∧ b.exponent ≠ least then 1 else 2
  (4 * b.mantissa - below, 4 * b.mantissa + 2)

/-- Whether `digits * 10 ^ place` rounds to `b`. -/
def holds (b : Binary) (digits : Nat) (place : Int) : Bool :=
  let (low, high) := b.interval
  let (bNum, bDen) := scaled 1 (b.exponent - 2)
  let (dNum, dDen) :=
    if 0 ≤ place then (digits * Nat.pow 10 place.toNat, 1) else (digits, Nat.pow 10 (-place).toNat)
  let value := dNum * bDen
  let unit := dDen * bNum
  if b.mantissa % 2 = 0 then low * unit ≤ value && value ≤ high * unit
  else low * unit < value && value < high * unit

/-- The multiple of `10 ^ place` next below `b`, and whether the one above is nearer. -/
def floorAt (b : Binary) (place : Int) : Nat × Bool :=
  let (num, den) := scaled b.mantissa b.exponent
  let (num, den) :=
    if 0 ≤ place then (num, den * Nat.pow 10 place.toNat) else (num * Nat.pow 10 (-place).toNat, den)
  let q := num / den
  let r := num % den
  (q, den < 2 * r || (2 * r == den && q % 2 == 1))

/-- The decimal at `place` that reads back as `b`, the nearer one of two. -/
def decimalAt? (b : Binary) (place : Int) : Option Nat :=
  let (below, up) := b.floorAt place
  match b.holds below place, b.holds (below + 1) place with
  | true, true => some (if up then below + 1 else below)
  | true, false => some below
  | false, true => some (below + 1)
  | false, false => none

/-- Searches from coarse places to fine ones. -/
def search (b : Binary) : Nat → Int → Decimal
  | 0, place => ⟨(b.floorAt place).1, place⟩
  | steps + 1, place =>
    match b.decimalAt? place with
    | some digits => ⟨digits, place⟩
    | none => search b steps (place - 1)

def topPlace (b : Binary) : Int :=
  ((b.mantissa.log2 : Int) + b.exponent + 1) * 30103 / 100000 + 2

def shortest (b : Binary) : Decimal := search b 400 b.topPlace

end Binary

def Decimal.trim : Nat → Decimal → Decimal
  | 0, d => d
  | steps + 1, d =>
    if d.digits ≠ 0 ∧ d.digits % 10 = 0 then trim steps ⟨d.digits / 10, d.exponent + 1⟩ else d

structure DecimalStyle where
  leastPositional : Int
  greatestPositional : Int
  exponentDigits : Nat

/-- Positional from one hundred-thousandth to below ten to the sixteenth, always with a point; otherwise
with a signed exponent of at least two digits. -/
def plainStyle : DecimalStyle := ⟨-5, 15, 2⟩

def padLeft (width : Nat) (digits : List Char) : List Char :=
  List.replicate (width - digits.length) '0' ++ digits

def Decimal.write (style : DecimalStyle) (d : Decimal) : List Char :=
  let d := d.trim 400
  let digits := Nat.toDigits 10 d.digits
  let magnitude : Int := d.exponent + digits.length - 1
  if style.leastPositional ≤ magnitude ∧ magnitude ≤ style.greatestPositional then
    if 0 ≤ d.exponent then digits ++ List.replicate d.exponent.toNat '0' ++ ['.', '0']
    else
      let places := (-d.exponent).toNat
      let padded := padLeft (places + 1) digits
      padded.take (padded.length - places) ++ '.' :: padded.drop (padded.length - places)
  else
    let tail := digits.drop 1
    digits.take 1 ++ (if tail.isEmpty then [] else '.' :: tail) ++
      'e' :: (if magnitude < 0 then '-' else '+') ::
        padLeft style.exponentDigits (Nat.toDigits 10 magnitude.natAbs)

end RowFactory.Text
