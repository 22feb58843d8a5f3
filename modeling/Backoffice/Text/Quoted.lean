import Backoffice.Text.Case
import Backoffice.Text.PrintTable

namespace Backoffice.Text

def isPrintable (c : Char) : Bool :=
  if c.toNat < 0x7F then 0x20 ≤ c.toNat
  else !inRanges joiningRanges c.toNat && !inRanges unprintableRanges c.toNat

def hexDigit (n : Nat) : Char := (Nat.digitChar (n % 16))

def hexDigits (n : Nat) : List Char := Nat.toDigits 16 n

def quoteChar (c : Char) : List Char :=
  match c with
  | '\x00' => ['\\', '0']
  | '\t' => ['\\', 't']
  | '\n' => ['\\', 'n']
  | '\r' => ['\\', 'r']
  | '"' => ['\\', '"']
  | '\\' => ['\\', '\\']
  | c => if isPrintable c then [c] else ['\\', 'u', '\x7b'] ++ hexDigits c.toNat ++ ['\x7d']

/-- A text between quotes, with nothing in it that would end it or not show. -/
def quoted (s : String) : String :=
  String.ofList (['"'] ++ s.toList.flatMap quoteChar ++ ['"'])

end Backoffice.Text
