import WideColumn.Text.Digits

/-! Binary floating-point numbers of 64 bits: the one nearest a decimal, a product or a quotient,
and the shortest decimal that reads back.  Only magnitudes are held; a sign goes beside them. -/

namespace WideColumn

/-- The magnitude `significand * 2 ^ exponent`. -/
structure Binary64 where
  significand : Nat
  exponent : Int
  deriving DecidableEq

structure Scientific where
  digits : Nat
  exponent : Int
  deriving DecidableEq

namespace Binary64

def leastExponent : Int := -1074

def greatestExponent : Int := 971

def leastNormal : Nat := 4503599627370496

def divPow (base num den : Nat) (k : Int) : Nat × Nat :=
  (num * Nat.pow base (-k).toNat, den * Nat.pow base k.toNat)

def floorLog2 (num den : Nat) : Int :=
  let k : Int := (num.log2 : Int) - den.log2
  let (n, d) := divPow 2 num den k
  if n < d then k - 1 else k

def roundHalfEven (num den : Nat) : Nat :=
  let whole := num / den
  let twice := 2 * (num % den)
  if twice < den then whole
  else if den < twice then whole + 1
  else whole + whole % 2

def ofRatio (num den : Nat) : Option Binary64 :=
  if num = 0 then some ⟨0, leastExponent⟩
  else
    let exponent := max (floorLog2 num den - 52) leastExponent
    let (n, d) := divPow 2 num den exponent
    let significand := roundHalfEven n d
    let rounded : Binary64 :=
      if significand = 2 * leastNormal then ⟨leastNormal, exponent + 1⟩
      else ⟨significand, exponent⟩
    if rounded.exponent > greatestExponent then none else some rounded

/-- The number nearest a decimal; none when that is beyond the greatest finite one.  A decimal
whose leading digit lies outside every number's range is settled by its size alone. -/
def ofDecimal (x : Scientific) : Option Binary64 :=
  let leading := x.exponent + (Text.digitsOf x.digits).length
  if x.digits = 0 ∨ leading < -330 then some ⟨0, leastExponent⟩
  else if leading > 310 then none
  else
    let (den, num) := divPow 10 1 x.digits x.exponent
    ofRatio num den

def times? (x y : Binary64) : Option Binary64 :=
  let (den, num) := divPow 2 1 (x.significand * y.significand) (x.exponent + y.exponent)
  ofRatio num den

def over? (x y : Binary64) : Option Binary64 :=
  let (den, num) := divPow 2 y.significand x.significand (x.exponent - y.exponent)
  ofRatio num den

/-- The point of the grid of multiples of `10 ^ k` that `x` is read back from: of its two
neighbours there, the nearer one that lies in the interval of reals that round to `x`. -/
def onGrid? (x : Binary64) (k : Int) : Option Nat :=
  let quarter := x.exponent - 2
  let scale := Nat.pow 2 quarter.toNat * Nat.pow 10 (-k).toNat
  let unit := Nat.pow 10 k.toNat * Nat.pow 2 (-quarter).toNat
  let gap := if x.significand = leastNormal ∧ x.exponent > leastExponent then 1 else 2
  let value := 4 * x.significand * scale
  let low := (4 * x.significand - gap) * scale
  let high := (4 * x.significand + 2) * scale
  let closed := x.significand % 2 == 0
  let holds (point : Nat) : Bool :=
    if closed then low ≤ point * unit && point * unit ≤ high
    else low < point * unit && point * unit < high
  let below := value / unit
  let upperNearer := unit ≤ 2 * (value % unit)
  match holds below, holds (below + 1) with
  | true, true => some (if upperNearer then below + 1 else below)
  | true, false => some below
  | false, true => some (below + 1)
  | false, false => none

def floorLog10 (x : Binary64) : Int :=
  let (den, num) := divPow 2 1 x.significand x.exponent
  let k := (floorLog2 num den * 30103).fdiv 100000
  let (n, d) := divPow 10 num den (k + 1)
  if d ≤ n then k + 1 else k

def stripZeros : Nat → Scientific → Scientific
  | 0, x => x
  | fuel + 1, x =>
    if x.digits ≠ 0 ∧ x.digits % 10 = 0 then
      stripZeros fuel ⟨x.digits / 10, x.exponent + 1⟩
    else x

/-- The decimal with the fewest digits that reads back as `x`, and of those the nearest. -/
def shortest (x : Binary64) : Scientific :=
  if x.significand = 0 then ⟨0, 0⟩
  else
    let top := x.floorLog10
    let grid (count : Nat) : Int := top + 1 - count
    let hit := (List.range' 1 17).findSome? fun count =>
      (x.onGrid? (grid count)).map fun digits => (⟨digits, grid count⟩ : Scientific)
    stripZeros 17 (hit.getD ⟨0, 0⟩)

end Binary64

def Scientific.positional (x : Scientific) : List Char :=
  match x.exponent with
  | .ofNat zeros => Text.digitsOf x.digits ++ List.replicate (if x.digits = 0 then 0 else zeros) '0'
  | .negSucc scale => Text.pointed (scale + 1) (Text.digitsOf x.digits)

end WideColumn
