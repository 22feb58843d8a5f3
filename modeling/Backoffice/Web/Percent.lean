import Backoffice.Text.Bytes

namespace Backoffice.Web

def upperHex (n : Nat) : Char := (Nat.digitChar (n % 16)).toUpper

def encodeByte (b : UInt8) : List Char := ['%', upperHex (b.toNat / 16), upperHex b.toNat]

def encodeChar (c : Char) : List Char := (String.utf8EncodeChar c).flatMap encodeByte

def encodeUnless (plain : Char → Bool) (cs : List Char) : List Char :=
  cs.flatMap fun c ↦ if c.toNat < 0x7F && plain c then [c] else encodeChar c

def inPath (c : Char) : Bool :=
  0x20 < c.toNat && !(['"', '#', '<', '>', '?', '\x60', '\x7b', '\x7d'].contains c)

def inQuery (c : Char) : Bool := 0x20 < c.toNat && !(['"', '#', '<', '>'].contains c)

def inWebQuery (c : Char) : Bool := inQuery c && c != '\''

def inForm (c : Char) : Bool := c.isAlphanum || ['*', '-', '.', '_'].contains c

/-- A text as it stands in a form that is sent as a query: blanks become plus signs. -/
def encodeForm (s : String) : List Char :=
  s.toList.flatMap fun c ↦ if c == ' ' then ['+'] else encodeUnless inForm [c]

def formQuery : List (String × String) → List Char
  | [] => []
  | [(k, v)] => encodeForm k ++ '=' :: encodeForm v
  | (k, v) :: rest => encodeForm k ++ '=' :: encodeForm v ++ '&' :: formQuery rest

def hexValue? (c : Char) : Option Nat :=
  if '0' ≤ c ∧ c ≤ '9' then some (c.toNat - '0'.toNat)
  else if 'a' ≤ c ∧ c ≤ 'f' then some (c.toNat - 'a'.toNat + 10)
  else if 'A' ≤ c ∧ c ≤ 'F' then some (c.toNat - 'A'.toNat + 10)
  else none

def decodeBytes : List Char → List UInt8
  | '%' :: a :: b :: cs =>
    match hexValue? a, hexValue? b with
    | some x, some y => UInt8.ofNat (x * 16 + y) :: decodeBytes cs
    | _, _ => 37 :: decodeBytes (a :: b :: cs)
  | c :: cs => String.utf8EncodeChar c ++ decodeBytes cs
  | [] => []

end Backoffice.Web
