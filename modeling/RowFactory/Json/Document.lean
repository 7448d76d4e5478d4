import RowFactory.Text.Decimal
import RowFactory.Text.Quoted

/-! # Data documents

A document is a tree of plain values. A text may stop being a document anywhere, and what was read up
to there still counts: the tree then says where it was cut and why. A reader that fails earlier for a
reason of its own never gets to see the cut.
-/

namespace RowFactory.Json

inductive Fault where
  | malformed
  | truncated
  deriving DecidableEq, Repr

structure Numeral where
  negative : Bool
  digits : Nat
  exponent : Int
  /-- Written without point and exponent. -/
  integral : Bool
  deriving DecidableEq, Repr

inductive Ending where
  | closed
  /-- As a value whose length is known. -/
  | whole
  /-- As a value whose surplus is of no interest. -/
  | lenient
  | cut (fault : Fault)
  | cutAfterComma
  deriving DecidableEq, Repr

inductive Document where
  | null
  | bool (value : Bool)
  | number (numeral : Numeral)
  | string (text : String)
  | array (items : List Document) (ending : Ending)
  | object (members : List (Document × Document)) (ending : Ending)
  /-- No value. Whoever passes over it meets a fault only if `whenSkipped` says so. -/
  | faulty (whenRead : Fault) (whenSkipped : Option Fault)
  deriving Repr

inductive Error where
  | fault (fault : Fault)
  | mismatch (reason : String)
  deriving DecidableEq, Repr

namespace Ending

def fault? : Ending → Option Fault
  | .cut fault => some fault
  | .cutAfterComma => some .truncated
  | _ => none

end Ending

namespace Document

def stop? : Document → Option Fault
  | .array _ ending | .object _ ending => ending.fault?
  | .faulty _ whenSkipped => whenSkipped
  | _ => none

def skip (d : Document) : Except Error Unit :=
  match d.stop? with
  | some fault => .error (.fault fault)
  | none => .ok ()

end Document

namespace Numeral

/-- The binary64 number nearest to the numeral, by its bits; nothing if it is too large. -/
def bits? (n : Numeral) : Option Nat :=
  let magnitude := (Nat.toDigits 10 n.digits).length + n.exponent
  if n.digits = 0 || magnitude < -400 then some 0
  else if 400 < magnitude then none
  else
    let value :=
      if 0 ≤ n.exponent then Float.ofScientific (n.digits * Nat.pow 10 n.exponent.toNat) false 0
      else Float.ofScientific n.digits true (-n.exponent).toNat
    let bits := value.toBits.toNat
    if bits / Nat.pow 2 52 = 2047 then none else some bits

/-- A whole number that fits into 64 bits, with a sign if it is negative. -/
def integer? (n : Numeral) : Option Int :=
  if !n.integral then none
  else if n.negative then
    if 0 < n.digits ∧ n.digits ≤ Nat.pow 2 63 then some (-(n.digits : Int)) else none
  else if n.digits < Nat.pow 2 64 then some n.digits
  else none

def ofInt (i : Int) : Numeral := ⟨i < 0, i.natAbs, 0, true⟩

def describe (n : Numeral) : Except Error String :=
  match n.integer? with
  | some i => .ok s!"integer `{i}`"
  | none =>
    match n.bits? with
    | none => .error (.fault .malformed)
    | some bits =>
      let digits :=
        match Text.Binary.ofBits? bits with
        | some b => b.shortest.write Text.plainStyle
        | none => ['0', '.', '0']
      let text := String.ofList (if n.negative then '-' :: digits else digits)
      .ok s!"floating point `{text}`"

end Numeral

def Document.describe : Document → Except Error String
  | .null => .ok "null"
  | .bool value => .ok s!"boolean `{value}`"
  | .number numeral => numeral.describe
  | .string text => .ok s!"string {Text.quoted text}"
  | .array _ _ => .ok "sequence"
  | .object _ _ => .ok "map"
  | .faulty fault _ => .error (.fault fault)

end RowFactory.Json
