namespace Backoffice.Text

def startsWith (part whole : List Char) : Bool := part.isPrefixOf whole

def occursIn (part : List Char) : List Char → Bool
  | [] => part.isEmpty
  | c :: cs => part.isPrefixOf (c :: cs) || occursIn part cs

def contains (whole part : String) : Bool := occursIn part.toList whole.toList

def splitAtFirst (c : Char) : List Char → Option (List Char × List Char)
  | [] => none
  | x :: xs => if x == c then some ([], xs) else (splitAtFirst c xs).map fun p ↦ (x :: p.1, p.2)

def splitOnce (c : Char) (s : String) : Option (String × String) :=
  (splitAtFirst c s.toList).map fun p ↦ (String.ofList p.1, String.ofList p.2)

/-- A text without one plus sign in front of it. -/
def dropPlus (s : String) : String :=
  match s.toList with
  | '+' :: cs => String.ofList cs
  | cs => String.ofList cs

/-- A text without any plus sign in front of it. -/
def dropPluses (s : String) : String := String.ofList (s.toList.dropWhile (· == '+'))

theorem occursIn_iff {part whole : List Char} :
    occursIn part whole = true ↔ part <:+: whole := by
  induction whole with
  | nil => simp [occursIn]
  | cons c cs ih => simp [occursIn, ih, List.infix_cons_iff]

theorem splitAtFirst_append {c : Char} {cs ds : List Char} (h : c ∉ cs) :
    splitAtFirst c (cs ++ c :: ds) = some (cs, ds) := by
  induction cs with
  | nil => simp [splitAtFirst]
  | cons x xs ih =>
    obtain ⟨hx, hxs⟩ : ¬ c = x ∧ c ∉ xs := by simpa [List.mem_cons] using h
    simp [splitAtFirst, Ne.symm hx, ih hxs]

end Backoffice.Text
