import WideColumn.Datum
import WideColumn.Calendar
import WideColumn.Toml.Quoted

namespace WideColumn.Toml

def endsScalar (c : Char) : Bool :=
  isSpace c || c == '\n' || c == '\r' || c == '#' || c == '=' || c == ',' || c == '[' || c == ']' ||
    c == '\x7b' || c == '\x7d'

/-- Whether each underscore stands between two digits.  `after` tells whether the character before
was a digit. -/
def isGrouped (isDigit : Char → Bool) (after : Bool) : List Char → Bool
  | [] => true
  | c :: rest =>
    if c = '_' then
      after && (rest.head?.map isDigit).getD false && isGrouped isDigit false rest
    else isGrouped isDigit (isDigit c) rest

def ungroup? (isDigit : Char → Bool) (text : List Char) : Option (List Char) :=
  if isGrouped isDigit false text then some (text.filter (· != '_')) else none

def signed : List Char → Bool × List Char
  | '-' :: rest => (true, rest)
  | '+' :: rest => (false, rest)
  | text => (false, text)

def digitIn (base : Nat) (c : Char) : Bool :=
  match Text.hexValue? c with
  | some digit => digit < base
  | none => false

/-- An integer in `base`, which may start with zeros but have no sign.  One without any digits is
well formed, but garbled. -/
def readBased (base : Nat) (text : List Char) : Option Datum :=
  if text.all fun c => c == '_' || digitIn base c then
    (ungroup? (digitIn 16) text).map fun digits =>
      if digits.isEmpty then .garbled
      else
        .integer
          (digits.foldl (fun n c => base * n + ((Text.hexValue? c).map Fin.val).getD 0) 0 : Nat)
  else none

/-- An integer in decimal digits.  Beside an underscore a hexadecimal digit will do, and after the
last digits anything; what does not come out as a number is garbled. -/
def readInteger (text : List Char) : Option Datum :=
  let body := (signed text).2
  if body.isEmpty || (1 < body.length && body.head? == some '0') then none
  else
    (ungroup? (digitIn 16) text).map fun text =>
      let (negative, digits) := signed text
      let n : Int := Text.ofDigits digits
      if digits.all Char.isDigit then .integer (if negative then -n else n) else .garbled

def isExponentMark (c : Char) : Bool :=
  c == 'e' || c == 'E'

def digits? (text : List Char) : Option (List Char) :=
  if !text.isEmpty && text.all Char.isDigit then some text else none

def readExponent : List Char → Option Int
  | [] => some 0
  | _ :: text => do
    let (negative, rest) := signed text
    let n : Int := Text.ofDigits (← digits? rest)
    some (if negative then -n else n)

def readPlaces : List Char → Option (List Char)
  | [] => some []
  | _ :: text => digits? text

def readReal (text : List Char) : Option Real := do
  let (negative, rest) := signed (← ungroup? Char.isDigit text)
  let base := rest.takeWhile (!isExponentMark ·)
  let whole := base.takeWhile (· != '.')
  let digits ← digits? whole
  let places ← readPlaces (base.drop whole.length)
  let exponent ← readExponent (rest.drop base.length)
  if 1 < digits.length && digits.head? == some '0' then none
  else some (.finite ⟨negative, digits, places, exponent⟩)

/-! Dates and times.  Only that they are right is kept. -/

def readDate (text : List Char) : Option (List Char) := do
  let (year, rest) ← Text.readFixed 4 text
  let rest ← Text.expect '-' rest
  let (month, rest) ← Text.readFixed 2 rest
  let rest ← Text.expect '-' rest
  let (day, rest) ← Text.readFixed 2 rest
  let _ ← Date.of? year month day
  some rest

def readFraction : List Char → Option (List Char)
  | '.' :: rest =>
    match rest.takeWhile Char.isDigit with
    | [] => none
    | digits => some (rest.drop digits.length)
  | text => some text

def readSeconds : List Char → Option (List Char)
  | ':' :: rest => do
    let (second, rest) ← Text.readFixed 2 rest
    if second ≤ 60 then readFraction rest else none
  | text => some text

def readHourMinute (text : List Char) : Option (List Char) := do
  let (hour, rest) ← Text.readFixed 2 text
  let rest ← Text.expect ':' rest
  let (minute, rest) ← Text.readFixed 2 rest
  if hour < 24 ∧ minute < 60 then some rest else none

def readTime (text : List Char) : Option (List Char) :=
  (readHourMinute text).bind readSeconds

def readOffset : List Char → Option (List Char)
  | [] => some []
  | c :: rest =>
    if c = 'Z' ∨ c = 'z' then some rest
    else if c = '+' ∨ c = '-' then readHourMinute rest
    else none

def isDateTime (text : List Char) : Bool :=
  match readDate text with
  | some [] => true
  | some (c :: rest) =>
    (c == 'T' || c == 't' || c == ' ') && (readTime rest).bind readOffset == some []
  | none => readTime text == some []

def number? (token : List Char) : Option Datum :=
  match (signed token).2.dropWhile Char.isDigit with
  | [] => readInteger token
  | c :: rest =>
    if c = '-' ∨ c = ':' then if isDateTime token then some .dateTime else none
    else if (c :: rest).any fun c => c == '.' || isExponentMark c then
      (readReal token).map .real
    else if c = '_' then readInteger token
    else none

def scalar? (token : List Char) : Option Datum :=
  if token = ['t', 'r', 'u', 'e'] then some (.boolean true)
  else if token = ['f', 'a', 'l', 's', 'e'] then some (.boolean false)
  else
    let (negative, body) := signed token
    if body = ['i', 'n', 'f'] then some (.real (.infinite negative))
    else if body = ['n', 'a', 'n'] then some (.real .notNumber)
    else
      match token with
      | '0' :: 'x' :: rest => readBased 16 rest
      | '0' :: 'o' :: rest => readBased 8 rest
      | '0' :: 'b' :: rest => readBased 2 rest
      | _ => number? token

/-- The characters of a scalar at the front of `text`.  A space belongs to one when it parts a date
from a time. -/
def scalarToken (text : List Char) : List Char :=
  let token := text.takeWhile (!endsScalar ·)
  match readDate token, text.drop token.length with
  | some [], ' ' :: rest =>
    let time := rest.takeWhile (!endsScalar ·)
    if (time.head?.map Char.isDigit).getD false then token ++ ' ' :: time else token
  | _, _ => token

def readScalar (text : List Char) : Option (Datum × List Char) := do
  let token := scalarToken text
  let value ← scalar? token
  some (value, text.drop token.length)

end WideColumn.Toml
