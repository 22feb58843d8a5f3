namespace Backoffice.Time

structure Date where
  year : Int
  month : Nat
  day : Nat
  deriving DecidableEq, Repr

def isLeap (year : Int) : Bool := year % 4 == 0 && (year % 100 != 0 || year % 400 == 0)

def monthLength (year : Int) : Nat → Nat
  | 2 => if isLeap year then 29 else 28
  | 4 | 6 | 9 | 11 => 30
  | _ => 31

def yearStart (year : Int) : Int :=
  365 * year + (year + 3) / 4 - (year + 99) / 100 + (year + 399) / 400

def monthStart (year : Int) : Nat → Nat
  | 0 | 1 => 0
  | m + 2 => monthStart year (m + 1) + monthLength year (m + 1)

def epoch : Int := 719528

def Date.isValid (d : Date) : Bool :=
  1 ≤ d.month && d.month ≤ 12 && 1 ≤ d.day && d.day ≤ monthLength d.year d.month

def Date.dayNumber (d : Date) : Int :=
  yearStart d.year + monthStart d.year d.month + d.day - 1 - epoch

/-- The year that holds a day counted from the start of the year 0: the one a mean year points to,
or one of its neighbours. -/
def yearOf (n : Int) : Int :=
  let y := n * 400 / 146097
  if yearStart (y + 1) ≤ n then y + 1 else if n < yearStart y then y - 1 else y

/-- The month and the day of a day of a year, looked for from a month on. -/
def monthOf (year : Int) : Nat → Nat → Nat → Nat × Nat
  | 0, month, rest => (month, rest + 1)
  | steps + 1, month, rest =>
    if rest < monthLength year month then (month, rest + 1)
    else monthOf year steps (month + 1) (rest - monthLength year month)

def Date.ofDayNumber (n : Int) : Date :=
  let n := n + epoch
  let year := yearOf n
  let (month, day) := monthOf year 11 1 (n - yearStart year).toNat
  ⟨year, month, day⟩

end Backoffice.Time
