import WideColumn.Decimal
import WideColumn.Text.Quote
import WideColumn.Timestamp
import WideColumn.Uuid

namespace WideColumn

inductive Value where
  | text (s : String)
  | int (n : Int64)
  | boolean (b : Bool)
  | timestamp (t : Timestamp)
  | uuid (id : Uuid)
  | decimal (x : Decimal)
  deriving DecidableEq

namespace Value

def isTextual : Value → Bool
  | text _ => true
  | _ => false

def typeName : Value → String
  | text _ => "text"
  | int _ => "int"
  | boolean _ => "boolean"
  | timestamp _ => "timestamp"
  | uuid _ => "uuid"
  | decimal _ => "decimal"

def text? : Value → Option String
  | text s => some s
  | _ => none

/-- Text stands between single quotes, with those inside it doubled; a timestamp is a number of
milliseconds. -/
def literalChars : Value → List Char
  | text s => '\'' :: Text.double '\'' s.toList ++ ['\'']
  | int n => Text.signedDigits n.toInt
  | boolean b => (if b then "true" else "false").toList
  | timestamp t => Text.signedDigits t.millis
  | uuid id => id.toChars
  | decimal x => x.toChars

def literal (v : Value) : String :=
  String.ofList v.literalChars

@[simp] theorem toList_literal (v : Value) : v.literal.toList = v.literalChars := by
  simp [literal]

/-- Whether two values are the same to the store: decimals by number, all others exactly. -/
def same : Value → Value → Bool
  | decimal x, decimal y => x.sameNumber y
  | v, w => v == w

theorem same_self (v : Value) : v.same v = true := by
  cases v <;> simp [same, Decimal.sameNumber_self]

def int? (n : Int) : Option Value :=
  if -9223372036854775808 ≤ n ∧ n < 9223372036854775808 then some (int (Int64.ofInt n)) else none

end Value

def sameItems {α : Type} (same : α → α → Bool) : List α → List α → Bool
  | [], [] => true
  | a :: as, b :: bs => same a b && sameItems same as bs
  | _, _ => false

end WideColumn
