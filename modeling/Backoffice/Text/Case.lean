import Backoffice.Text.CaseTable

namespace Backoffice.Text

def inRanges (ranges : List (Nat × Nat)) (n : Nat) : Bool :=
  ranges.any fun r ↦ r.1 ≤ n && n ≤ r.2

def Shift.covers (s : Shift) (n : Nat) : Bool :=
  s.first ≤ n && n ≤ s.last && (n - s.first) % s.step == 0

def Shift.move (s : Shift) (n : Nat) : Char := Char.ofNat ((n : Int) + s.distance).toNat

/-- The other case of a character: a longer form if it has one, else its shift, else itself. -/
def recase (long : List (Nat × List Nat)) (shifts : List Shift) (c : Char) : List Char :=
  match long.lookup c.toNat with
  | some cs => cs.map Char.ofNat
  | none =>
    match shifts.find? (·.covers c.toNat) with
    | some s => [s.move c.toNat]
    | none => [c]

def lowerChar (c : Char) : List Char :=
  if c.toNat < 128 then [c.toLower] else recase lowerLong lowerShifts c

def upperChar (c : Char) : List Char :=
  if c.toNat < 128 then [c.toUpper] else recase upperLong upperShifts c

def isCased (c : Char) : Bool := inRanges casedRanges c.toNat

def isCaseIgnorable (c : Char) : Bool := inRanges caseIgnorableRanges c.toNat

def startsCased (cs : List Char) : Bool :=
  match cs.dropWhile isCaseIgnorable with
  | [] => false
  | c :: _ => isCased c

/-- Lower case after the characters `before`, which stand nearest first. -/
def lowerFrom (before : List Char) : List Char → List Char
  | [] => []
  | c :: cs =>
    let here :=
      if c == 'Σ' then [if startsCased before && !startsCased cs then 'ς' else 'σ'] else lowerChar c
    here ++ lowerFrom (c :: before) cs

def lower (s : String) : String := String.ofList (lowerFrom [] s.toList)

def capitalize (s : String) : String :=
  match s.toList with
  | [] => ""
  | c :: cs => String.ofList (upperChar c ++ cs)

def lowerAscii (s : String) : String := String.ofList (s.toList.map Char.toLower)

end Backoffice.Text
