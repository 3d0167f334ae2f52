import WideColumn.Calendar
import WideColumn.Text.Blank
import WideColumn.Text.Digits

/-! Instants in universal time to the nanosecond.  A leap second is kept as second 60 of its
minute. -/

namespace WideColumn

structure Timestamp where
  date : Date
  hour : Nat
  minute : Nat
  second : Nat
  nano : Nat
  hour_lt : hour < 24
  minute_lt : minute < 60
  second_le : second ≤ 60
  nano_lt : nano < 1000000000
  deriving DecidableEq

namespace Timestamp

def of? (date : Date) (hour minute second nano : Nat) : Option Timestamp :=
  if h : (hour < 24 ∧ minute < 60) ∧ second ≤ 60 ∧ nano < 1000000000 then
    some ⟨date, hour, minute, second, nano, h.1.1, h.1.2, h.2.1, h.2.2⟩
  else none

@[simp] theorem of?_fields (t : Timestamp) :
    of? t.date t.hour t.minute t.second t.nano = some t := by
  simp [of?, t.hour_lt, t.minute_lt, t.second_le, t.nano_lt]

/-- Milliseconds since the start of 1970, less the part of one begun.  A leap second counts as the
second after it. -/
def millis (t : Timestamp) : Int :=
  t.date.dayNumber * 86400000 +
    (((t.hour * 60 + t.minute) * 60 + t.second) * 1000 + t.nano / 1000000 : Nat)

def ofMillis? (millis : Int) : Option Timestamp := do
  let date ← Date.ofDayNumber? (millis / 86400000)
  let inDay := (millis % 86400000).toNat
  let seconds := inDay / 1000
  of? date (seconds / 3600) (seconds / 60 % 60) (seconds % 60) (inDay % 1000 * 1000000)

/-- A year in four digits; with a sign, and more digits if need be, outside 0 to 9999. -/
def yearChars (year : Int) : List Char :=
  let digits := Text.padded 4 (Text.digitsOf year.natAbs)
  if 0 ≤ year ∧ year ≤ 9999 then digits
  else (if year < 0 then '-' else '+') :: digits

def twoDigits (n : Nat) : List Char :=
  Text.padded 2 (Text.digitsOf n)

/-- The fraction of a second in the fewest groups of three digits that are exact. -/
def fractionChars (nano : Nat) : List Char :=
  if nano = 0 then []
  else if nano % 1000000 = 0 then '.' :: Text.padded 3 (Text.digitsOf (nano / 1000000))
  else if nano % 1000 = 0 then '.' :: Text.padded 6 (Text.digitsOf (nano / 1000))
  else '.' :: Text.padded 9 (Text.digitsOf nano)

def toChars (t : Timestamp) : List Char :=
  yearChars t.date.year ++ '-' :: twoDigits t.date.month ++ '-' :: twoDigits t.date.day ++
    'T' :: twoDigits t.hour ++ ':' :: twoDigits t.minute ++ ':' :: twoDigits t.second ++
    fractionChars t.nano ++ ['Z']

def toString (t : Timestamp) : String :=
  String.ofList t.toChars

/-! Reading.  White space may stand before every number and mark, and at the end. -/

def readYear (text : List Char) : Option (Int × List Char) :=
  match Text.skipBlanks text with
  | '-' :: rest => (Text.readDigits rest.length rest).map fun (n, rest) => (-n, rest)
  | '+' :: rest => (Text.readDigits rest.length rest).map fun (n, rest) => (n, rest)
  | rest => (Text.readDigits 4 rest).map fun (n, rest) => (n, rest)

def readNumber (text : List Char) : Option (Nat × List Char) :=
  Text.readDigits 2 (Text.skipBlanks text)

def readMark (c : Char) (text : List Char) : Option (List Char) :=
  Text.expect c (Text.skipBlanks text)

def readDivider : List Char → Option (List Char)
  | c :: rest => if c = 'T' ∨ c = 't' ∨ c = ' ' then some rest else none
  | [] => none

/-- An optional fraction of a second; the digits after the ninth are dropped. -/
def readFraction : List Char → Option (Nat × List Char)
  | '.' :: rest =>
    match rest.takeWhile Char.isDigit with
    | [] => none
    | digits =>
      let kept := digits.take 9
      some (Text.ofDigits kept * Nat.pow 10 (9 - kept.length), rest.drop digits.length)
  | text => some (0, text)

/-- Minutes from universal time to the local one: a letter or a name for none, or a sign, two digits
of hours and two of minutes. -/
def readOffset (text : List Char) : Option (Int × List Char) :=
  match text with
  | [] => none
  | c :: rest =>
    if c = 'Z' ∨ c = 'z' then some (0, rest)
    else if Text.lowerCase (text.take 3) = ['u', 't', 'c'] then some (0, text.drop 3)
    else if c = '+' ∨ c = '-' ∨ c = '\u2212' then do
      let (hours, rest) ← Text.readFixed 2 rest
      let (minutes, rest) ←
        Text.readFixed 2 (rest.dropWhile fun d => d == ':' || Text.isBlank d)
      if minutes < 60 ∧ hours < 24 then
        let total : Int := (hours * 60 + minutes : Nat)
        some (if c = '+' then total else -total, rest)
      else none
    else none

/-- The universal time of a local one that is `offset` minutes ahead of it. -/
def toUniversal? (offset : Int) (t : Timestamp) : Option Timestamp := do
  let minutes : Int := (t.hour * 60 + t.minute : Nat) - offset
  let date ←
    if minutes < 0 then t.date.previous?
    else if 1440 ≤ minutes then t.date.next?
    else some t.date
  let inDay := (minutes % 1440).toNat
  of? date (inDay / 60) (inDay % 60) t.second t.nano

def ofChars? (text : List Char) : Option Timestamp := do
  let (year, text) ← readYear text
  let text ← readMark '-' text
  let (month, text) ← readNumber text
  let text ← readMark '-' text
  let (day, text) ← readNumber text
  let text ← readDivider text
  let (hour, text) ← readNumber text
  let text ← readMark ':' text
  let (minute, text) ← readNumber text
  let text ← readMark ':' text
  let (second, text) ← readNumber text
  let (nano, text) ← readFraction text
  let (offset, text) ← readOffset (Text.skipBlanks text)
  let date ← Date.of? year month day
  let t ← of? date hour minute second nano
  if (Text.skipBlanks text).isEmpty then t.toUniversal? offset else none

def ofString? (text : String) : Option Timestamp :=
  ofChars? text.toList

end Timestamp

end WideColumn
