namespace Backoffice.Text

/-- The order of texts by their bytes. -/
def bytesLe (s t : String) : Bool := !decide (t < s)

def replacement : Char := Char.ofNat 0xFFFD

def isContinuation (b : UInt8) : Bool := b &&& 0xC0 == 0x80

/-- Continuation bytes a first byte asks for, with the least and greatest value of the next one. -/
def leadByte (b : UInt8) : Option (Nat × UInt8 × UInt8) :=
  if 0xC2 ≤ b && b ≤ 0xDF then some (1, 0x80, 0xBF)
  else if b == 0xE0 then some (2, 0xA0, 0xBF)
  else if b == 0xED then some (2, 0x80, 0x9F)
  else if 0xE1 ≤ b && b ≤ 0xEF then some (2, 0x80, 0xBF)
  else if b == 0xF0 then some (3, 0x90, 0xBF)
  else if b == 0xF4 then some (3, 0x80, 0x8F)
  else if 0xF1 ≤ b && b ≤ 0xF3 then some (3, 0x80, 0xBF)
  else none

/-- A character being read: bits so far, bytes to come, bounds of the next byte. -/
structure Partial where
  bits : Nat
  missing : Nat
  least : UInt8
  greatest : UInt8

def leadBits (b : UInt8) : Nat → Nat
  | 1 => b.toNat % 32
  | 2 => b.toNat % 16
  | _ => b.toNat % 8

/-- Reads bytes as characters; `none` stands for a longest part that begins no character. -/
def readUtf8 : Option Partial → List UInt8 → List (Option Char)
  | none, [] => []
  | some _, [] => [none]
  | none, b :: bs =>
    if b < 0x80 then some (Char.ofNat b.toNat) :: readUtf8 none bs
    else
      match leadByte b with
      | some (n, lo, hi) => readUtf8 (some ⟨leadBits b n, n, lo, hi⟩) bs
      | none => none :: readUtf8 none bs
  | some p, b :: bs =>
    if p.least ≤ b && b ≤ p.greatest then
      let bits := p.bits * 64 + b.toNat % 64
      if p.missing ≤ 1 then some (Char.ofNat bits) :: readUtf8 none bs
      else readUtf8 (some ⟨bits, p.missing - 1, 0x80, 0xBF⟩) bs
    else if b < 0x80 then none :: some (Char.ofNat b.toNat) :: readUtf8 none bs
    else
      match leadByte b with
      | some (n, lo, hi) => none :: readUtf8 (some ⟨leadBits b n, n, lo, hi⟩) bs
      | none => none :: none :: readUtf8 none bs

/-- The text of some bytes, with the replacement character for what is no text. A byte order mark
in front is dropped. -/
def lossy (bytes : List UInt8) : String :=
  let cs := (readUtf8 none bytes).map (·.getD replacement)
  String.ofList (match cs with | c :: rest => if c.toNat == 0xFEFF then rest else cs | [] => [])

/-- The text of some bytes up to the first that is none, which becomes a character that no document
may hold there. -/
def strict (bytes : List UInt8) : String :=
  let cs := readUtf8 none bytes
  let sound := cs.takeWhile Option.isSome
  String.ofList (sound.filterMap id ++ (if sound.length < cs.length then ['\x00'] else []))

end Backoffice.Text
