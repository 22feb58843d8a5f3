import Backoffice.Json.Document

namespace Backoffice.Json.Reader

open Backoffice (Document Number Double)

def isSpace (c : Char) : Bool := c == ' ' || c == '\n' || c == '\t' || c == '\r'

def skipSpace (cs : List Char) : List Char := cs.dropWhile isSpace

def digit? (c : Char) : Option Nat :=
  if '0' ≤ c ∧ c ≤ '9' then some (c.toNat - '0'.toNat) else none

def hexDigit? (c : Char) : Option Nat :=
  if '0' ≤ c ∧ c ≤ '9' then some (c.toNat - '0'.toNat)
  else if 'a' ≤ c ∧ c ≤ 'f' then some (c.toNat - 'a'.toNat + 10)
  else if 'A' ≤ c ∧ c ≤ 'F' then some (c.toNat - 'A'.toNat + 10)
  else none

def digits : List Char → List Nat × List Char
  | [] => ([], [])
  | c :: cs =>
    match digit? c with
    | some d => let (ds, rest) := digits cs; (d :: ds, rest)
    | none => ([], c :: cs)

def absorb (significand : Nat) : List Nat → Nat × Nat
  | [] => (significand, 0)
  | d :: ds =>
    let next := significand * 10 + d
    if next < Nat.pow 2 64 then let (s, n) := absorb next ds; (s, n + 1) else (significand, 0)

/-- A written number: its whole digits, those after the point, and its exponent with a sign. -/
structure Numeral where
  negative : Bool
  whole : List Nat
  decimals : Option (List Nat)
  exponent : Option (Bool × List Nat)

def greatestExponent : Nat := Nat.pow 2 31 - 1

def Numeral.real? (n : Numeral) : Option Double :=
  let (whole, taken) := absorb 0 n.whole
  let dropped := n.whole.length - taken
  let (significand, placed) := absorb whole (n.decimals.getD [])
  let start : Int := (dropped : Int) - placed
  match n.exponent with
  | none => Double.ofDecimal n.negative significand start
  | some (down, ds) =>
    let e : Nat := ds.foldl (fun acc d ↦ acc * 10 + d) 0
    if e ≤ greatestExponent then
      Double.ofDecimal n.negative significand (if down then start - e else start + e)
    else if significand ≠ 0 ∧ !down then none
    else Double.ofDecimal n.negative 0 0

/-- The value of a numeral. Only whole numbers of 64 bits are integers; minus zero is none. -/
def Numeral.value? (n : Numeral) : Option Number :=
  if n.decimals.isNone ∧ n.exponent.isNone then
    let size : Nat := n.whole.foldl (fun acc d ↦ acc * 10 + d) 0
    if n.negative then
      if 0 < size ∧ size ≤ Nat.pow 2 63 then some (.int (-size)) else n.real?.map .real
    else if size < Nat.pow 2 64 then some (.int size)
    else n.real?.map .real
  else n.real?.map .real

def decimals : List Char → Option (Option (List Nat) × List Char)
  | '.' :: cs =>
    match digits cs with
    | ([], _) => none
    | (ds, rest) => some (some ds, rest)
  | cs => some (none, cs)

def exponentDigits (down : Bool) (cs : List Char) :
    Option (Option (Bool × List Nat) × List Char) :=
  match digits cs with
  | ([], _) => none
  | (ds, rest) => some (some (down, ds), rest)

def exponent : List Char → Option (Option (Bool × List Nat) × List Char)
  | c :: cs =>
    if c == 'e' || c == 'E' then
      match cs with
      | '+' :: cs => exponentDigits false cs
      | '-' :: cs => exponentDigits true cs
      | cs => exponentDigits false cs
    else some (none, c :: cs)
  | [] => some (none, [])

def numeral (negative : Bool) (cs : List Char) : Option (Numeral × List Char) := do
  let (whole, cs) := digits cs
  if whole.isEmpty || (whole.head? == some 0 && 1 < whole.length) then none
  else
    let (ds, cs) ← decimals cs
    let (e, cs) ← exponent cs
    return (⟨negative, whole, ds, e⟩, cs)

def number (cs : List Char) : Document × Option (List Char) :=
  let read := match cs with
    | '-' :: cs => numeral true cs
    | cs => numeral false cs
  match read with
  | none => (.broken, none)
  | some (n, rest) =>
    (match n.value? with | some v => .num v | none => .unreadable, some rest)

def hexUnit : List Char → Option (Nat × List Char)
  | a :: b :: c :: d :: rest => do
    let a ← hexDigit? a
    let b ← hexDigit? b
    let c ← hexDigit? c
    let d ← hexDigit? d
    return (((a * 16 + b) * 16 + c) * 16 + d, rest)
  | _ => none

def isHighHalf (n : Nat) : Bool := 0xD800 ≤ n && n ≤ 0xDBFF

def isLowHalf (n : Nat) : Bool := 0xDC00 ≤ n && n ≤ 0xDFFF

def joinHalves (high low : Nat) : Char :=
  Char.ofNat (0x10000 + (high - 0xD800) * 0x400 + (low - 0xDC00))

def shortEscape? : Char → Option Char
  | '"' => some '"'
  | '\\' => some '\\'
  | '/' => some '/'
  | 'b' => some '\x08'
  | 'f' => some '\x0c'
  | 'n' => some '\n'
  | 'r' => some '\r'
  | 't' => some '\t'
  | _ => none

def unicodeEscape (cs : List Char) : Option (Option Char × List Char) := do
  let (n, rest) ← hexUnit cs
  if isHighHalf n then
    match rest with
    | '\\' :: 'u' :: more =>
      match hexUnit more with
      | some (m, rest') =>
        if isLowHalf m then some (some (joinHalves n m), rest') else some (none, rest)
      | none => none
    | _ => some (none, rest)
  else if isLowHalf n then some (none, rest)
  else some (some (Char.ofNat n), rest)

/-- The characters of a string after its opening quote; a missing one has no value. Reading takes
at most as many steps as there are characters. -/
def characters : Nat → List Char → Option (List (Option Char) × List Char)
  | 0, _ => none
  | _, [] => none
  | n + 1, c :: cs =>
    if c == '"' then some ([], cs)
    else if c == '\\' then
      match cs with
      | 'u' :: cs => do
        let (x, cs) ← unicodeEscape cs
        let (xs, rest) ← characters n cs
        return (x :: xs, rest)
      | e :: cs => do
        let x ← shortEscape? e
        let (xs, rest) ← characters n cs
        return (some x :: xs, rest)
      | [] => none
    else if c.toNat < 0x20 then none
    else do
      let (xs, rest) ← characters n cs
      return (some c :: xs, rest)

def string (steps : Nat) (cs : List Char) : Option (Option String × List Char) := do
  let (xs, rest) ← characters steps cs
  return (if xs.all Option.isSome then some (String.ofList (xs.filterMap id)) else none, rest)

def after? (word : List Char) (cs : List Char) : Option (List Char) :=
  if word.isPrefixOf cs then some (cs.drop word.length) else none

def literal (word : List Char) (d : Document) (cs : List Char) : Document × Option (List Char) :=
  match after? word cs with
  | some rest => (d, some rest)
  | none => (.broken, none)

def greatestDepth : Nat := 127

def nested (depth : Nat) (d : Document) : Document :=
  if depth < greatestDepth then d else if d.sound then .unreadable else .broken

mutual

def value : Nat → Nat → List Char → Document × Option (List Char)
  | 0, _, _ => (.broken, none)
  | _, _, [] => (.broken, none)
  | n + 1, depth, c :: cs =>
    if c == 'n' then literal ['u', 'l', 'l'] .null cs
    else if c == 't' then literal ['r', 'u', 'e'] (.bool true) cs
    else if c == 'f' then literal ['a', 'l', 's', 'e'] (.bool false) cs
    else if c == '"' then
      match string n cs with
      | some (some s, rest) => (.str s, some rest)
      | some (none, rest) => (.unreadable, some rest)
      | none => (.broken, none)
    else if c == '[' then
      let (ds, rest) :=
        match skipSpace cs with
        | ']' :: rest => ([], some rest)
        | cs => items n (depth + 1) cs
      (nested depth (.arr ds), rest)
    else if c == '\x7b' then
      let (ms, rest) :=
        match skipSpace cs with
        | '\x7d' :: rest => ([], some rest)
        | cs => members n (depth + 1) cs
      (nested depth (.obj ms), rest)
    else number (c :: cs)

def items : Nat → Nat → List Char → List Document × Option (List Char)
  | 0, _, _ => ([.broken], none)
  | n + 1, depth, cs =>
    match value n depth cs with
    | (d, none) => ([d], none)
    | (d, some rest) =>
      match skipSpace rest with
      | ']' :: rest => ([d], some rest)
      | ',' :: rest =>
        let (ds, rest) := items n depth (skipSpace rest)
        (d :: ds, rest)
      | _ => ([d, .broken], none)

def members : Nat → Nat → List Char → List (Option String × Document) × Option (List Char)
  | 0, _, _ => ([(none, .broken)], none)
  | n + 1, depth, cs =>
    match cs with
    | '"' :: cs =>
      match string n cs with
      | none => ([(none, .broken)], none)
      | some (name, rest) =>
        match skipSpace rest with
        | ':' :: rest =>
          match value n depth (skipSpace rest) with
          | (d, none) => ([(name, d)], none)
          | (d, some rest) =>
            match skipSpace rest with
            | '\x7d' :: rest => ([(name, d)], some rest)
            | ',' :: rest =>
              let (ms, rest) := members n depth (skipSpace rest)
              ((name, d) :: ms, rest)
            | _ => ([(name, d), (none, .broken)], none)
        | _ => ([(name, .broken)], none)
    | _ => ([(none, .broken)], none)

end

/-- A text read as a document, and whether nothing but space follows it. -/
def read (text : String) : Document × Bool :=
  let cs := text.toList
  match value (2 * cs.length + 2) 0 (skipSpace cs) with
  | (d, some rest) => (d, (skipSpace rest).isEmpty)
  | (d, none) => (d, false)

end Backoffice.Json.Reader

namespace Backoffice.Json

def parse? (text : String) : Option Json :=
  match Reader.read text with
  | (d, true) => d.value?
  | (_, false) => none

end Backoffice.Json
