import Backoffice.Text.Blank
import Backoffice.Web.Percent

namespace Backoffice.Web

def splitOn (c : Char) (cs : List Char) : List (List Char) :=
  cs.foldr (fun x acc ↦
    match acc with
    | part :: rest => if x == c then [] :: part :: rest else (x :: part) :: rest
    | [] => [[x]]) [[]]

def digitsValue? (base : Nat) (cs : List Char) : Option Nat :=
  cs.foldl (fun acc c ↦
    match acc, hexValue? c with
    | some n, some d => if d < base then some (n * base + d) else none
    | _, _ => none) (some 0)

/-- A part of an IPv4 address: decimal, octal after a zero, or hexadecimal after `0x`. -/
def ipv4Part? (cs : List Char) : Option Nat :=
  match cs with
  | [] => none
  | '0' :: 'x' :: ds => digitsValue? 16 ds
  | '0' :: 'X' :: ds => digitsValue? 16 ds
  | '0' :: d :: ds => digitsValue? 8 (d :: ds)
  | ds => digitsValue? 10 ds

def labels (cs : List Char) : List (List Char) :=
  let parts := splitOn '.' cs
  if 1 < parts.length && parts.getLast? == some [] then parts.dropLast else parts

/-- Whether the last part of a name is a number, so that the whole must be an address. -/
def endsInNumber (cs : List Char) : Bool :=
  match (labels cs).getLast? with
  | some [] => false
  | some l => l.all Char.isDigit || (ipv4Part? l).isSome
  | none => false

def ipv4? (cs : List Char) : Option Nat := do
  let parts := labels cs
  let numbers ← parts.mapM ipv4Part?
  let last ← numbers.getLast?
  let scale := Nat.pow 256 (5 - parts.length)
  if parts.length ≤ 4 ∧ numbers.dropLast.all (· < 256) ∧ last < scale then
    let front := numbers.dropLast.foldl (fun acc n ↦ acc * 256 + n) 0
    some (front * scale + last)
  else none

def writeIpv4 (n : Nat) : List Char :=
  let part (k : Nat) : List Char := Nat.toDigits 10 (n / Nat.pow 256 k % 256)
  part 3 ++ '.' :: part 2 ++ '.' :: part 1 ++ '.' :: part 0

def dottedPair? (cs : List Char) : Option (List Nat) := do
  let parts := splitOn '.' cs
  let numbers ← parts.mapM fun p ↦
    if p.isEmpty || 3 < p.length || (p.head? == some '0' && 1 < p.length) then none
    else if p.all Char.isDigit then digitsValue? 10 p else none
  match numbers with
  | [a, b, c, d] =>
    if a < 256 ∧ b < 256 ∧ c < 256 ∧ d < 256 then some [a * 256 + b, c * 256 + d] else none
  | _ => none

/-- Groups of an IPv6 address with colons between them. -/
def groups? (dotted : Bool) : List (List Char) → Option (List Nat)
  | [] => some []
  | [p] =>
    if dotted && p.contains '.' then dottedPair? p
    else if p.isEmpty || 4 < p.length then none
    else (digitsValue? 16 p).map fun n ↦ [n]
  | p :: ps =>
    if p.isEmpty || 4 < p.length then none
    else do
      let n ← digitsValue? 16 p
      let ns ← groups? dotted ps
      return n :: ns

def side? (dotted : Bool) (cs : List Char) : Option (List Nat) :=
  if cs.isEmpty then some [] else groups? dotted (splitOn ':' cs)

def splitDouble : List Char → Option (List Char × List Char)
  | ':' :: ':' :: cs => some ([], cs)
  | c :: cs => (splitDouble cs).map fun p ↦ (c :: p.1, p.2)
  | [] => none

/-- The eight groups of an IPv6 address. A double colon stands for at least one group of zeros. -/
def ipv6? (cs : List Char) : Option (List Nat) :=
  match splitDouble cs with
  | none => do
    let gs ← side? true cs
    if gs.length = 8 then some gs else none
  | some (left, right) => do
    let front ← side? right.isEmpty left
    let back ← side? true right
    if front.length + back.length ≤ 7 then
      some (front ++ List.replicate (8 - front.length - back.length) 0 ++ back)
    else none

def zeroRun (gs : List Nat) : Option (Nat × Nat) :=
  (List.range gs.length).foldl (fun best i ↦
    let n := ((gs.drop i).takeWhile (· == 0)).length
    match best with
    | some (_, m) => if m < n then some (i, n) else best
    | none => if 2 ≤ n then some (i, n) else none) none

def joinColons (gs : List Nat) : List Char :=
  (gs.map (Nat.toDigits 16)).intersperse [':'] |>.flatten

def writeIpv6 (gs : List Nat) : List Char :=
  match zeroRun gs with
  | some (i, n) => joinColons (gs.take i) ++ [':', ':'] ++ joinColons (gs.drop (i + n))
  | none => joinColons gs

def forbiddenInHost (c : Char) : Bool :=
  c.toNat == 0 || ['\t', '\n', '\r', ' ', '#', '/', ':', '<', '>', '?', '@', '[', '\\', ']', '^',
    '|'].contains c

def forbiddenInDomain (c : Char) : Bool :=
  forbiddenInHost c || c.toNat < 0x20 || c == '%' || c.toNat == 0x7F ||
    (0x7F < c.toNat && (Text.isBlank c || c == Text.replacement))

/-- Characters that do not count in a name: soft hyphens, joiners of no width, variation selectors. -/
def isIgnored (c : Char) : Bool :=
  let n := c.toNat
  [0xAD, 0x34F, 0x200B, 0x2060, 0x2064, 0xFEFF].contains n || (0x180B ≤ n && n ≤ 0x180D) ||
    (0xFE00 ≤ n && n ≤ 0xFE0F)

/-- A character as names write it: wide forms of ASCII characters and wide full stops are narrow,
letters are small. -/
def inName (c : Char) : Char :=
  let n := c.toNat
  if 0xFF01 ≤ n ∧ n ≤ 0xFF5E then (Char.ofNat (n - 0xFEE0)).toLower
  else if n = 0x3002 ∨ n = 0xFF61 then '.'
  else c.toLower

def isHollow (label : List Char) : Bool :=
  ['x', 'n', '-', '-'].isPrefixOf label && label.getLast? == some '-'

def webHost? (cs : List Char) : Option (List Char) :=
  match cs with
  | '[' :: rest =>
    if rest.getLast? == some ']' then
      (ipv6? rest.dropLast).map fun gs ↦ '[' :: writeIpv6 gs ++ [']']
    else none
  | cs =>
    let read := (Text.readUtf8 none (decodeBytes cs)).map (·.getD Text.replacement)
    let name := (read.filter (!isIgnored ·)).map inName
    if name.isEmpty || name.any forbiddenInDomain || (splitOn '.' name).any isHollow then none
    else if endsInNumber name then (ipv4? name).map writeIpv4
    else some name

def opaqueHost? (cs : List Char) : Option (List Char) :=
  match cs with
  | '[' :: rest =>
    if rest.getLast? == some ']' then
      (ipv6? rest.dropLast).map fun gs ↦ '[' :: writeIpv6 gs ++ [']']
    else none
  | cs => if cs.any forbiddenInHost then none else some (encodeUnless (fun c ↦ 0x1F < c.toNat) cs)

end Backoffice.Web
