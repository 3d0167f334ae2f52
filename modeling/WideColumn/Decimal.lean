import WideColumn.Binary64

/-! Decimal numbers of at most 96 bits and 28 places.  They keep their places. -/

namespace WideColumn

def Decimal.limit : Nat := 79228162514264337593543950336

/-- The number `magnitude / 10 ^ scale` with a sign, which a zero may have too. -/
structure Decimal where
  negative : Bool
  magnitude : Nat
  scale : Nat
  magnitude_lt : magnitude < Decimal.limit
  scale_le : scale ≤ 28
  deriving DecidableEq

namespace Decimal

def greatestScale : Nat := 28

structure Parts where
  negative : Bool
  magnitude : Nat
  scale : Nat

def ofParts? (parts : Parts) : Option Decimal :=
  if h : parts.magnitude < limit ∧ parts.scale ≤ 28 then
    some ⟨parts.negative, parts.magnitude, parts.scale, h.1, h.2⟩
  else none

def mantissa (x : Decimal) : Int :=
  if x.negative then -x.magnitude else x.magnitude

def toChars (x : Decimal) : List Char :=
  (if x.negative then ['-'] else []) ++ Text.pointed x.scale (Text.digitsOf x.magnitude)

def toString (x : Decimal) : String :=
  String.ofList x.toChars

def sameNumber (x y : Decimal) : Bool :=
  x.mantissa * Nat.pow 10 y.scale == y.mantissa * Nat.pow 10 x.scale

theorem sameNumber_self (x : Decimal) : x.sameNumber x = true := by
  simp [sameNumber]

/-! Reading.  Digits are taken while they fit; the first that does not is rounded on. -/

/-- Magnitudes below it are narrow: with one more digit they stay in 64 bits for sure. -/
def narrowLimit : Nat := 1844674407370954906

def digitValue (c : Char) : Nat :=
  c.toNat - 48

def isDigitOrGap (c : Char) : Bool :=
  c.isDigit || c == '_'

/-- `magnitude` after the dropped digit, a five going up.  A carry out of range costs one
more place. -/
def roundOff (magnitude scale dropped : Nat) : Option (Nat × Nat) :=
  if dropped < 5 then some (magnitude, scale)
  else if magnitude + 1 < limit then some (magnitude + 1, scale)
  else if scale = 0 then none
  else some ((magnitude + 1 + 4) / 10, scale - 1)

/-- Reads digits with at most one point among them.  `point` and `seen` tell whether the point and
a digit have been read; an underscore may stand anywhere after a digit.  Right behind the last
place, of a number narrow up to there, it stands for the digit that is left out, and for a zero. -/
def scan (point seen : Bool) (magnitude scale : Nat) : List Char → Option (Nat × Nat)
  | [] => if seen then some (magnitude, scale) else none
  | c :: rest =>
    if c.isDigit then
      let next := 10 * magnitude + digitValue c
      let places := if point then scale + 1 else scale
      if next < limit ∧ places ≤ greatestScale then
        if magnitude < narrowLimit ∧ point = true ∧ places = greatestScale ∧
            rest.head? = some '_' then
          if rest.all isDigitOrGap then some (next, places) else none
        else scan point true next places rest
      else if point ∧ rest.all isDigitOrGap then roundOff magnitude scale (digitValue c)
      else none
    else if c = '.' ∧ point = false then scan true seen magnitude scale rest
    else if c = '_' ∧ seen = true then scan point seen magnitude scale rest
    else none

def signed : List Char → Bool × List Char
  | '-' :: rest => (true, rest)
  | '+' :: rest => (false, rest)
  | text => (false, text)

/-- A number without an exponent.  A zero has no sign. -/
def readPlain (text : List Char) : Option Parts :=
  let (negative, digits) := signed text
  (scan false false 0 0 digits).map fun (magnitude, scale) =>
    ⟨negative && magnitude != 0, magnitude, scale⟩

def readUnsigned (text : List Char) : Option Nat :=
  let digits := match text with
    | '+' :: rest => rest
    | _ => text
  if digits.isEmpty || !digits.all Char.isDigit then none else some (Text.ofDigits digits)

/-- Moves the point to the right.  Past the last place, zeros are put in. -/
def raise (parts : Parts) (places : Nat) : Option Parts :=
  if places ≤ parts.scale then some { parts with scale := parts.scale - places }
  else if greatestScale < places then none
  else
    some { parts with
      magnitude := parts.magnitude * Nat.pow 10 (places - parts.scale)
      scale := 0 }

/-- Moves the point to the left.  Places beyond the last are rounded off, a half going up; the sign
stays even if nothing else does. -/
def lower (parts : Parts) (places : Nat) : Option Parts :=
  if greatestScale < places then none
  else
    let excess := parts.scale + places - greatestScale
    let half := 5 * Nat.pow 10 excess / 10
    some { parts with
      magnitude := (parts.magnitude + half) / Nat.pow 10 excess
      scale := parts.scale + places - excess }

def isExponentMark (c : Char) : Bool :=
  c == 'e' || c == 'E'

def readScientific (text : List Char) : Option Parts := do
  let base := text.takeWhile (!isExponentMark ·)
  let exponent ← (text.drop base.length).tail?
  let parts ← readPlain base
  match exponent with
  | '-' :: exponent => lower parts (← readUnsigned exponent)
  | exponent => raise parts (← readUnsigned exponent)

def ofChars? (text : List Char) : Option Decimal :=
  ((readPlain text).bind ofParts?).or ((readScientific text).bind ofParts?)

def ofString? (text : String) : Option Decimal :=
  ofChars? text.toList

def ofInt? (n : Int) : Option Decimal :=
  ofParts? ⟨n < 0, n.natAbs, 0⟩

def ofBinary64? (negative : Bool) (x : Binary64) : Option Decimal :=
  ofChars? ((if negative then ['-'] else []) ++ x.shortest.positional)

end Decimal

end WideColumn
