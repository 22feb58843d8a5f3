import Backoffice.Text.Blank
import Backoffice.Time.Calendar

namespace Backoffice.Time

/-- A point in time, in nanoseconds since the start of 1970. -/
structure Instant where
  nanos : Int
  deriving DecidableEq, Repr

namespace Instant

def dayNanos : Int := 86400 * 1000000000

def ofMillis (ms : Int) : Instant := ⟨ms * 1000000⟩

def millis (t : Instant) : Int := t.nanos / 1000000

def earliestYear : Int := -262143

def latestYear : Int := 262142

/-- Whether the year of an instant is one that instants are kept for. -/
def inRange (t : Instant) : Bool :=
  yearStart earliestYear - epoch ≤ t.nanos / dayNanos &&
    t.nanos / dayNanos < yearStart (latestYear + 1) - epoch

def greatestSpan : Int := 106751991167

def addDays (t : Instant) (days : Int) : Instant := ⟨t.nanos + days * dayNanos⟩

def addDays? (t : Instant) (days : Int) : Option Instant :=
  let later := t.addDays days
  if days.natAbs ≤ greatestSpan.natAbs ∧ later.inRange then some later else none

instance : LT Instant := ⟨fun s t ↦ s.nanos < t.nanos⟩

instance (s t : Instant) : Decidable (s < t) := inferInstanceAs (Decidable (s.nanos < t.nanos))

def padded (width n : Nat) : List Char :=
  let ds := Nat.toDigits 10 n
  List.replicate (width - ds.length) '0' ++ ds

/-- Years beyond four digits and those before the year 0 have a sign. -/
def writeYear (y : Int) : List Char :=
  if y < 0 then '-' :: padded 4 y.natAbs
  else if y < 10000 then padded 4 y.natAbs
  else '+' :: padded 4 y.natAbs

/-- A fraction of a second in as many groups of three digits as it needs. -/
def writeFraction (nanos : Nat) : List Char :=
  if nanos = 0 then []
  else if nanos % 1000000 = 0 then '.' :: padded 3 (nanos / 1000000)
  else if nanos % 1000 = 0 then '.' :: padded 6 (nanos / 1000)
  else '.' :: padded 9 nanos

def writeChars (t : Instant) : List Char :=
  let date := Date.ofDayNumber (t.nanos / dayNanos)
  let rest := (t.nanos % dayNanos).toNat
  let seconds := rest / 1000000000
  writeYear date.year ++ ['-'] ++ padded 2 date.month ++ ['-'] ++ padded 2 date.day ++ ['T'] ++
    padded 2 (seconds / 3600) ++ [':'] ++ padded 2 (seconds / 60 % 60) ++ [':'] ++
    padded 2 (seconds % 60) ++ writeFraction (rest % 1000000000) ++ ['Z']

def write (t : Instant) : String := String.ofList t.writeChars

def digit? (c : Char) : Option Nat :=
  if '0' ≤ c ∧ c ≤ '9' then some (c.toNat - '0'.toNat) else none

def digitsFrom : Nat → Nat → List Char → Nat × List Char
  | 0, n, cs => (n, cs)
  | _, n, [] => (n, [])
  | width + 1, n, c :: cs =>
    match digit? c with
    | some d => digitsFrom width (n * 10 + d) cs
    | none => (n, c :: cs)

def number? (width : Nat) : List Char → Option (Nat × List Char)
  | [] => none
  | c :: cs => if (digit? c).isSome then some (digitsFrom width 0 (c :: cs)) else none

def skipBlanks (cs : List Char) : List Char := cs.dropWhile Text.isBlank

def field? (width : Nat) (cs : List Char) : Option (Nat × List Char) :=
  number? width (skipBlanks cs)

/-- A year of up to four digits, or of any number of them after a sign. -/
def year? (cs : List Char) : Option (Int × List Char) :=
  match skipBlanks cs with
  | '-' :: cs => (number? cs.length cs).map fun p ↦ (-(p.1 : Int), p.2)
  | '+' :: cs => (number? cs.length cs).map fun p ↦ ((p.1 : Int), p.2)
  | cs => (number? 4 cs).map fun p ↦ ((p.1 : Int), p.2)

def mark? (c : Char) (cs : List Char) : Option (List Char) :=
  match skipBlanks cs with
  | d :: cs => if d == c then some cs else none
  | [] => none

def separator? : List Char → Option (List Char)
  | c :: cs => if c == 'T' || c == 't' || Text.isBlank c then some cs else none
  | [] => none

/-- The nanoseconds of a fraction, whose digits after the ninth do not count. -/
def fraction? : List Char → Option (Nat × List Char)
  | '.' :: cs =>
    match number? 9 cs with
    | none => none
    | some (n, rest) =>
      let scale := Nat.pow 10 (9 - (cs.length - rest.length))
      some (n * scale, rest.dropWhile fun c ↦ (digit? c).isSome)
  | cs => some (0, cs)

def hoursMinutes? (cs : List Char) : Option (Int × List Char) :=
  match cs with
  | h₁ :: h₂ :: cs =>
    match cs.dropWhile fun c ↦ c == ':' || Text.isBlank c with
    | m₁ :: m₂ :: rest => do
      let h₁ ← digit? h₁
      let h₂ ← digit? h₂
      let m₁ ← digit? m₁
      let m₂ ← digit? m₂
      let seconds := (h₁ * 10 + h₂) * 3600 + (m₁ * 10 + m₂) * 60
      if m₁ < 6 ∧ seconds < 86400 then some ((seconds : Int), rest) else none
    | _ => none
  | _ => none

def offset? (cs : List Char) : Option (Int × List Char) :=
  match skipBlanks cs with
  | '+' :: cs => hoursMinutes? cs
  | '-' :: cs => (hoursMinutes? cs).map fun p ↦ (-p.1, p.2)
  | '−' :: cs => (hoursMinutes? cs).map fun p ↦ (-p.1, p.2)
  | 'Z' :: cs => some (0, cs)
  | 'z' :: cs => some (0, cs)
  | u :: t :: c :: cs =>
    if u.toLower == 'u' && t.toLower == 't' && c.toLower == 'c' then some (0, cs) else none
  | _ => none

def readChars (cs : List Char) : Option Instant := do
  let (year, cs) ← year? cs
  let cs ← mark? '-' cs
  let (month, cs) ← field? 2 cs
  let cs ← mark? '-' cs
  let (day, cs) ← field? 2 cs
  let cs ← separator? cs
  let (hour, cs) ← field? 2 cs
  let cs ← mark? ':' cs
  let (minute, cs) ← field? 2 cs
  let cs ← mark? ':' cs
  let (second, cs) ← field? 2 cs
  let (nanos, cs) ← fraction? cs
  let (ahead, cs) ← offset? cs
  let date : Date := ⟨year, month, day⟩
  let seconds : Int := (hour * 3600 + minute * 60 + second : Nat)
  let t : Instant := ⟨date.dayNumber * dayNanos + (seconds - ahead) * 1000000000 + nanos⟩
  if date.isValid ∧ earliestYear ≤ year ∧ year ≤ latestYear ∧ hour ≤ 23 ∧ minute ≤ 59 ∧
      second ≤ 60 ∧ t.inRange ∧ (skipBlanks cs).isEmpty then some t
  else none

def read? (s : String) : Option Instant := readChars s.toList

end Instant

end Backoffice.Time
