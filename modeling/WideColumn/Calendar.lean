namespace WideColumn

def isLeapYear (year : Int) : Bool :=
  year % 4 == 0 && (year % 100 != 0 || year % 400 == 0)

def daysInMonth (year : Int) (month : Nat) : Nat :=
  match month with
  | 2 => if isLeapYear year then 29 else 28
  | 4 | 6 | 9 | 11 => 30
  | _ => 31

structure Date where
  year : Int
  month : Nat
  day : Nat
  year_ge : -262143 ≤ year
  year_le : year ≤ 262142
  month_pos : 1 ≤ month
  month_le : month ≤ 12
  day_pos : 1 ≤ day
  day_le : day ≤ daysInMonth year month
  deriving DecidableEq

namespace Date

def of? (year : Int) (month day : Nat) : Option Date :=
  if h : (-262143 ≤ year ∧ year ≤ 262142) ∧ (1 ≤ month ∧ month ≤ 12) ∧
      1 ≤ day ∧ day ≤ daysInMonth year month then
    some ⟨year, month, day, h.1.1, h.1.2, h.2.1.1, h.2.1.2, h.2.2.1, h.2.2.2⟩
  else none

@[simp] theorem of?_fields (date : Date) :
    of? date.year date.month date.day = some date := by
  simp [of?, date.year_ge, date.year_le, date.month_pos, date.month_le, date.day_pos,
    date.day_le]

def next? (date : Date) : Option Date :=
  if date.day < daysInMonth date.year date.month then
    of? date.year date.month (date.day + 1)
  else if date.month < 12 then of? date.year (date.month + 1) 1
  else of? (date.year + 1) 1 1

def previous? (date : Date) : Option Date :=
  if 1 < date.day then of? date.year date.month (date.day - 1)
  else if 1 < date.month then
    of? date.year (date.month - 1) (daysInMonth date.year (date.month - 1))
  else of? (date.year - 1) 12 31

def daysBeforeYear (year : Int) : Int :=
  365 * (year - 1) + (year - 1) / 4 - (year - 1) / 100 + (year - 1) / 400

def daysBeforeMonth (year : Int) : (month : Nat) → Nat
  | 0 | 1 => 0
  | month + 2 => daysBeforeMonth year (month + 1) + daysInMonth year (month + 1)

def yearOneOffset : Int := 719162

def dayNumber (date : Date) : Int :=
  daysBeforeYear date.year + daysBeforeMonth date.year date.month + date.day - 1 - yearOneOffset

/-- The month and the day in it of the day that `passed` days of `year` go before, from `month`
on. -/
def monthAndDay (year : Int) : (fuel month passed : Nat) → Nat × Nat
  | 0, month, passed => (month, passed + 1)
  | fuel + 1, month, passed =>
    if passed < daysInMonth year month then (month, passed + 1)
    else monthAndDay year fuel (month + 1) (passed - daysInMonth year month)

def ofDayNumber? (number : Int) : Option Date :=
  let days := number + yearOneOffset
  let inCycle := (days % 146097).toNat
  let century := min (inCycle / 36524) 3
  let inCentury := inCycle - 36524 * century
  let inQuad := inCentury % 1461
  let quadYear := min (inQuad / 365) 3
  let year : Int :=
    400 * (days / 146097) + (100 * century + 4 * (inCentury / 1461) + quadYear + 1 : Nat)
  let (month, day) := monthAndDay year 12 1 (inQuad - 365 * quadYear)
  of? year month day

end Date

end WideColumn
