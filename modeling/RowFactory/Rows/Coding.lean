import RowFactory.Json.Decoding
import RowFactory.Json.Writer
import RowFactory.Naming
import RowFactory.Rows.Row

/-! # Rows in data files -/

namespace RowFactory.Rows

open Json

namespace Datum

def encode : Datum → Document
  | .integer n => .number (.ofInt n)
  | .flag f => .bool f
  | .text s | .moment s => .string s

def decode (kind : FieldKind) : Decoder Datum
  | .string s => .ok (if kind = .timestamp then .moment s else .text s)
  | .bool b => .ok (.flag b)
  | .number n =>
    match n.integer? with
    | some i => .ok (.integer i)
    | none => mismatch (.number n) "an integer"
  | d => mismatch d "a value"

end Datum

def Row.encode (columns : List String) (r : Row) : Document :=
  .record (columns.map fun name => (name, some (((r.column? name).map Datum.encode).getD .null)))

end RowFactory.Rows
