namespace Backoffice

structure Double where
  bits : UInt64
  deriving DecidableEq, Repr

namespace Double

def ofFloat (f : Float) : Double := ⟨f.toBits⟩

def toFloat (d : Double) : Float := Float.ofBits d.bits

def ofInt (n : Int) : Double :=
  let f := n.natAbs.toUInt64.toFloat
  ofFloat (if n < 0 then -f else f)

def powerOfTen (n : Nat) : Float := Float.ofScientific 1 false n

/-- Scales a number by a power of ten, in steps that the table of powers reaches. A result beyond
the greatest double is none. -/
def scale : Nat → Float → Int → Option Float
  | 0, f, _ => some f
  | steps + 1, f, e =>
    if e.natAbs ≤ 308 then
      if 0 ≤ e then
        let g := f * powerOfTen e.natAbs
        if g.isInf then none else some g
      else some (f / powerOfTen e.natAbs)
    else if f == 0 then some f
    else if 0 ≤ e then none
    else scale steps (f / powerOfTen 308) (e + 308)

/-- A significand of at most 64 bits times a power of ten. After three steps down nothing but zero
is left of any significand. -/
def ofDecimal (negative : Bool) (significand : Nat) (exponent : Int) : Option Double :=
  (scale 4 significand.toUInt64.toFloat exponent).map fun f ↦ ofFloat (if negative then -f else f)

def isNegative (d : Double) : Bool := Nat.pow 2 63 ≤ d.bits.toNat

def fraction (d : Double) : Nat := d.bits.toNat % Nat.pow 2 52

def biased (d : Double) : Nat := d.bits.toNat / Nat.pow 2 52 % Nat.pow 2 11

def parts (d : Double) : Nat × Nat :=
  if d.biased = 0 then (d.fraction, 0) else (Nat.pow 2 52 + d.fraction, d.biased - 1)

/-- The numbers that read as one double: those from `low` to `high` in units of `1 / unit`, the
double itself being `mid`; the ends belong to it if `closed`. -/
structure Interval where
  low : Nat
  mid : Nat
  high : Nat
  unit : Nat
  closed : Bool

def interval (d : Double) : Interval :=
  let (m, q) := d.parts
  let below := if d.fraction = 0 ∧ 1 < d.biased then 1 else 2
  let power := Nat.pow 2 q
  ⟨(4 * m - below) * power, 4 * m * power, (4 * m + 2) * power, Nat.pow 2 1076, m % 2 = 0⟩

def Interval.holds (i : Interval) (n : Nat) (e : Int) : Bool :=
  let x := n * Nat.pow 10 e.toNat * i.unit
  let y := Nat.pow 10 (-e).toNat
  if i.closed then i.low * y ≤ x && x ≤ i.high * y else i.low * y < x && x < i.high * y

def magnitude (x unit : Nat) : Nat → Int → Int
  | 0, e => e
  | n + 1, e =>
    if Nat.pow 10 e.toNat * unit ≤ x * Nat.pow 10 (-e).toNat then e
    else magnitude x unit n (e - 1)

def Interval.nearest? (i : Interval) (e : Int) : Option Nat :=
  let x := i.mid * Nat.pow 10 (-e).toNat
  let y := Nat.pow 10 e.toNat * i.unit
  let n := x / y
  match i.holds n e && n != 0, i.holds (n + 1) e with
  | true, true =>
    let r := 2 * (x % y)
    some (if r < y ∨ (r = y ∧ n % 2 = 0) then n else n + 1)
  | true, false => some n
  | false, true => some (n + 1)
  | false, false => none

def Interval.shortest (i : Interval) : Nat → Int → Nat × Int
  | 0, e => (0, e)
  | n + 1, e =>
    match i.nearest? e with
    | some k => (k, e)
    | none => i.shortest n (e - 1)

/-- The fewest digits that read back, with the power of ten of the last one. -/
def shortest (d : Double) : Nat × Int :=
  let i := d.interval
  if i.mid = 0 then (0, 0) else i.shortest 19 (magnitude i.mid i.unit 640 309 + 1)

def layout (digits : List Char) (e : Int) : List Char :=
  let n : Int := digits.length
  let point := n + e
  if 0 ≤ e ∧ point ≤ 16 then digits ++ List.replicate e.toNat '0' ++ ['.', '0']
  else if 0 < point ∧ point ≤ 16 then
    digits.take point.toNat ++ ['.'] ++ digits.drop point.toNat
  else if -5 < point ∧ point ≤ 0 then
    ['0', '.'] ++ List.replicate (-point).toNat '0' ++ digits
  else
    let power := 'e' :: (toString (point - 1)).toList
    match digits with
    | [c] => c :: power
    | c :: cs => c :: '.' :: cs ++ power
    | [] => power

def render (d : Double) : List Char :=
  let (n, e) := d.shortest
  let body := if n = 0 then ['0', '.', '0'] else layout (Nat.toDigits 10 n) e
  if d.isNegative then '-' :: body else body

end Double

end Backoffice
