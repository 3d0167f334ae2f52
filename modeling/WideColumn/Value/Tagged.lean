import WideColumn.Numeral
import WideColumn.Value

namespace WideColumn

/-- What may stand in a tagged value.  `real` is a number written with a point or an exponent, or
too large for an integer. -/
inductive Payload where
  | text (s : String)
  | integer (n : Int)
  | real (x : Numeral)
  | boolean (b : Bool)
  | other
  deriving DecidableEq

structure Tagged where
  tag : String
  payload : Payload
  deriving DecidableEq

namespace Value

def tagged : Value → Tagged
  | text s => ⟨"Text", .text s⟩
  | int n => ⟨"Int", .integer n.toInt⟩
  | boolean b => ⟨"Boolean", .boolean b⟩
  | timestamp t => ⟨"Timestamp", .text t.toString⟩
  | uuid id => ⟨"Uuid", .text id.toString⟩
  | decimal x => ⟨"Decimal", .text x.toString⟩

def ofTagged? : Tagged → Option Value
  | ⟨"Text", .text s⟩ => some (text s)
  | ⟨"Int", .integer n⟩ => int? n
  | ⟨"Boolean", .boolean b⟩ => some (boolean b)
  | ⟨"Timestamp", .text s⟩ => (Timestamp.ofString? s).map timestamp
  | ⟨"Uuid", .text s⟩ => (Uuid.ofString? s).map uuid
  | ⟨"Decimal", .text s⟩ => (Decimal.ofString? s).map decimal
  | ⟨"Decimal", .integer n⟩ => (Decimal.ofInt? n).map decimal
  | ⟨"Decimal", .real x⟩ => (x.staged?.bind (Decimal.ofBinary64? x.negative)).map decimal
  | _ => none

end Value

end WideColumn
