import WideColumn.Binary64

/-! Numbers as they are written in decimal digits, and two ways to take them for binary ones: at
once, as the nearest, and in stages, each of which rounds. -/

namespace WideColumn

/-- The digits before and after a point, times ten to the power of `exponent`. -/
structure Numeral where
  negative : Bool
  whole : List Char
  places : List Char
  exponent : Int
  deriving DecidableEq

namespace Numeral

def magnitude (x : Numeral) : Scientific :=
  ⟨Text.ofDigits (x.whole ++ x.places), x.exponent - x.places.length⟩

def nearest? (x : Numeral) : Option Binary64 :=
  Binary64.ofDecimal x.magnitude

/-! In stages: the leading digits make a number of 64 bits, which is rounded to a binary one, and
then multiplied or divided by powers of ten. -/

/-- Appends digits to `n` while it stays below `2 ^ 64`; gives the digits that are left. -/
def gather (n : Nat) : List Char → Nat × List Char
  | [] => (n, [])
  | c :: rest =>
    let next := 10 * n + (c.toNat - 48)
    if next < 18446744073709551616 then gather next rest else (n, c :: rest)

def leading (x : Numeral) : Scientific :=
  let (n, uncounted) := gather 0 x.whole
  let (n, lost) := gather n x.places
  ⟨n, x.exponent + uncounted.length + lost.length - x.places.length⟩

def powerOfTen (k : Nat) : Option Binary64 :=
  Binary64.ofDecimal ⟨1, k⟩

def greatestPower : Nat := 308

def raise (x : Binary64) (places : Nat) : Option Binary64 :=
  if places ≤ greatestPower then (powerOfTen places).bind x.times?
  else if x.significand = 0 then some x
  else none

def lower (x : Binary64) (places : Nat) : Option Binary64 :=
  if places ≤ greatestPower then (powerOfTen places).bind x.over?
  else if x.significand = 0 then some x
  else do
    let quotient ← (powerOfTen greatestPower).bind x.over?
    lower quotient (places - greatestPower)
termination_by places
decreasing_by simp only [greatestPower] at *; omega

/-- The binary number reached in stages, which may not be the nearest one. -/
def staged? (x : Numeral) : Option Binary64 := do
  let cut := x.leading
  let rounded ← Binary64.ofRatio cut.digits 1
  match cut.exponent with
  | .ofNat places => raise rounded places
  | .negSucc places => lower rounded (places + 1)

end Numeral

end WideColumn
