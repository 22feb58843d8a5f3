import Backoffice.Proofs.Record.RoundTrip
import Backoffice.Text.Case
import Backoffice.Text.Search

namespace Backoffice.Text

/-- Whether a sigma between two stretches of a text ends a word. What stands before it has the nearest first. -/
def endsWord (before after : List Char) : Bool := startsCased before && !startsCased after

def lowerAt (before : List Char) (c : Char) (after : List Char) : List Char :=
  if c == 'Σ' then [if endsWord before after then 'ς' else 'σ'] else lowerChar c

theorem lowerFrom_cons (before : List Char) (c : Char) (cs : List Char) :
    lowerFrom before (c :: cs) = lowerAt before c cs ++ lowerFrom (c :: before) cs := rfl

theorem lowerAt_of_ne {c : Char} (h : c ≠ 'Σ') (before after : List Char) : lowerAt before c after = lowerChar c :=
  if_neg (by simpa using h)

def lowerBetween (before after : List Char) : List Char → List Char
  | [] => []
  | c :: cs => lowerAt before c (cs ++ after) ++ lowerBetween (c :: before) after cs

theorem lowerFrom_append (before cs after : List Char) :
    lowerFrom before (cs ++ after) =
      lowerBetween before after cs ++ lowerFrom (cs.reverse ++ before) after := by
  induction cs generalizing before with
  | nil => rfl
  | cons c cs ih =>
    rw [List.cons_append, lowerFrom_cons, ih, lowerBetween, List.append_assoc, List.reverse_cons, List.append_assoc]
    rfl

theorem length_lowerAt (before before' : List Char) (c : Char) (after after' : List Char) :
    (lowerAt before c after).length = (lowerAt before' c after').length := by
  by_cases hc : c = 'Σ'
  · simp [lowerAt, hc]
  · rw [lowerAt_of_ne hc, lowerAt_of_ne hc]

/-- A character is lowered in the same way in two places, unless it is a sigma that ends a word in one of them. -/
theorem lowerAt_eq_iff {before before' : List Char} {c : Char} {after after' : List Char} :
    lowerAt before c after = lowerAt before' c after' ↔
      (c = 'Σ' → endsWord before after = endsWord before' after') := by
  by_cases hc : c = 'Σ'
  · subst hc
    simp only [lowerAt, beq_self_eq_true, if_true, forall_const]
    cases endsWord before after <;> cases endsWord before' after' <;> decide
  · simp [lowerAt_of_ne hc, hc]

/-- Each capital sigma of a stretch of a text ends a word in its place just if it does so when only `read` and the
stretch itself are seen of the text. -/
def SameEndings (read before part after : List Char) : Prop :=
  ∀ left right, part = left ++ 'Σ' :: right →
    endsWord (left.reverse ++ (read ++ before)) (right ++ after) = endsWord (left.reverse ++ read) right

theorem sameEndings_cons {read before cs after : List Char} {c : Char} : SameEndings read before (c :: cs) after ↔
    (c = 'Σ' → endsWord (read ++ before) (cs ++ after) = endsWord read cs) ∧
      SameEndings (c :: read) before cs after := by
  constructor
  · refine fun h ↦ ⟨fun hc ↦ h [] cs (by rw [hc]; rfl), fun left right he ↦ ?_⟩
    simpa using h (c :: left) right (by rw [he]; rfl)
  · rintro ⟨hc, h⟩ left right he
    cases left with
    | nil =>
      obtain ⟨rfl, rfl⟩ := List.cons.inj he
      exact hc rfl
    | cons d left =>
      obtain ⟨rfl, hcs⟩ := List.cons.inj he
      simpa using h left right hcs

/-- A stretch is lowered in its place as it is by itself exactly if its words end alike. -/
theorem lowerBetween_eq_iff {part after : List Char} (read before : List Char) :
    lowerBetween (read ++ before) after part = lowerFrom read part ↔ SameEndings read before part after := by
  induction part generalizing read with
  | nil => exact ⟨fun _ left right he ↦ by simp at he, fun _ ↦ rfl⟩
  | cons c cs ih =>
    rw [lowerBetween, lowerFrom_cons, sameEndings_cons, ← lowerAt_eq_iff (c := c), ← ih (c :: read)]
    exact ⟨fun h ↦ List.append_inj h (length_lowerAt _ _ _ _ _), fun ⟨hhere, hrest⟩ ↦ congr (congrArg _ hhere) hrest⟩

/-- A part of a text that stands somewhere in it with the same endings of words. -/
def StandsIn (part whole : List Char) : Prop :=
  ∃ before after, whole = before ++ part ++ after ∧ SameEndings [] before.reverse part after

variable {part whole : List Char}

theorem StandsIn.infix_lower (h : StandsIn part whole) : lowerFrom [] part <:+: lowerFrom [] whole := by
  obtain ⟨before, after, rfl, he⟩ := h
  have hpart : lowerBetween before.reverse after part = lowerFrom [] part := (lowerBetween_eq_iff [] _).mpr he
  refine ⟨lowerBetween [] (part ++ after) before, lowerFrom (part.reverse ++ before.reverse) after, ?_⟩
  rw [List.append_assoc before, lowerFrom_append, List.append_nil, lowerFrom_append, hpart, List.append_assoc]

theorem StandsIn.isInfix (h : StandsIn part whole) : part <:+: whole := by
  obtain ⟨before, after, rfl, -⟩ := h
  exact ⟨before, after, rfl⟩

theorem standsIn_of_isInfix (h : part <:+: whole) (hs : 'Σ' ∉ part) : StandsIn part whole := by
  obtain ⟨before, after, rfl⟩ := h
  refine ⟨before, after, rfl, fun left right hp ↦ ?_⟩
  rw [hp] at hs
  exact absurd (List.mem_append_right left List.mem_cons_self) hs

theorem trim_isInfix (s : String) : (trim s).toList <:+: s.toList := by
  rw [trim, String.toList_ofList, trimChars]
  exact (dropTrailing_isPrefix _ _).isInfix.trans (List.dropWhile_suffix _).isInfix

theorem isEmpty_trim (s : String) : (trim s).isEmpty = isBlankText s := by
  rw [Bool.eq_iff_iff, String.isEmpty_iff, ← String.toList_eq_nil_iff, trim, String.toList_ofList, trimChars,
    dropTrailing_eq_nil_iff, ← List.dropWhile_eq_nil_iff, dropWhile_dropWhile, List.dropWhile_eq_nil_iff, isBlankText,
    List.all_eq_true]

theorem isBlankText_of_isInfix {s t : String} (h : s.toList <:+: t.toList) (ht : isBlankText t) : isBlankText s :=
  List.all_eq_true.mpr fun c hc ↦ List.all_eq_true.mp ht c (h.subset hc)

theorem contains_iff {s t : String} : contains t s = true ↔ s.toList <:+: t.toList := occursIn_iff

theorem contains_lower {s t : String} (h : StandsIn s.toList t.toList) : contains (lower t) (lower s) = true := by
  rw [contains_iff, lower, lower, String.toList_ofList, String.toList_ofList]
  exact h.infix_lower

end Backoffice.Text
