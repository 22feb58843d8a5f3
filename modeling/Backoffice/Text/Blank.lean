namespace Backoffice.Text

/-- The white space of the Unicode property of that name. -/
def isBlank (c : Char) : Bool :=
  let n := c.toNat
  (9 ≤ n && n ≤ 13) || n == 0x20 || n == 0x85 || n == 0xA0 || n == 0x1680 ||
    (0x2000 ≤ n && n ≤ 0x200A) || n == 0x2028 || n == 0x2029 || n == 0x202F || n == 0x205F ||
    n == 0x3000

def dropTrailing (p : Char → Bool) (cs : List Char) : List Char :=
  (cs.reverse.dropWhile p).reverse

def trimChars (cs : List Char) : List Char := dropTrailing isBlank (cs.dropWhile isBlank)

def trim (s : String) : String := String.ofList (trimChars s.toList)

def isBlankText (s : String) : Bool := s.toList.all isBlank

def filled? : Option String → Option String
  | none => none
  | some s => if isBlankText s then none else some (trim s)

theorem dropTrailing_nil (p : Char → Bool) : dropTrailing p [] = [] := rfl

theorem dropTrailing_append_of_pos {p : Char → Bool} {c : Char} (h : p c) (cs : List Char) :
    dropTrailing p (cs ++ [c]) = dropTrailing p cs := by
  simp [dropTrailing, h]

theorem dropTrailing_append_of_neg {p : Char → Bool} {c : Char} (h : ¬ p c) (cs : List Char) :
    dropTrailing p (cs ++ [c]) = cs ++ [c] := by
  simp [dropTrailing, h]

theorem dropTrailing_isPrefix (p : Char → Bool) (cs : List Char) : dropTrailing p cs <+: cs := by
  have h := List.dropWhile_suffix (l := cs.reverse) p
  simpa [dropTrailing] using List.reverse_prefix.mpr h

theorem dropWhile_dropWhile (p : Char → Bool) (cs : List Char) :
    (cs.dropWhile p).dropWhile p = cs.dropWhile p := by
  induction cs with
  | nil => rfl
  | cons c cs ih => by_cases h : p c <;> simp [h, ih]

theorem dropTrailing_dropTrailing (p : Char → Bool) (cs : List Char) :
    dropTrailing p (dropTrailing p cs) = dropTrailing p cs := by
  simp [dropTrailing, dropWhile_dropWhile]

end Backoffice.Text
