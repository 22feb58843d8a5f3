import Backoffice.Proofs.Time.Calendar
import Backoffice.Time.Instant

namespace Backoffice.Time.Instant

theorem digit?_of_isDigit {c : Char} (h : c.isDigit = true) :
    digit? c = some (c.toNat - '0'.toNat) := by
  have hc : '0' ≤ c ∧ c ≤ '9' := by
    simp only [Char.isDigit, Bool.and_eq_true, decide_eq_true_eq] at h
    exact h
  simp [digit?, hc]

def EndsNumber (cs : List Char) : Prop := ∀ c ∈ cs.head?, digit? c = none

theorem digitsFrom_append (ds rest : List Char) (width n : Nat)
    (hd : ∀ c ∈ ds, c.isDigit = true) (hw : ds.length ≤ width) (hr : EndsNumber rest) :
    digitsFrom width n (ds ++ rest) = (Nat.ofDigitChars 10 ds n, rest) := by
  induction ds generalizing width n with
  | nil =>
    cases width with
    | zero => simp [digitsFrom]
    | succ width =>
      cases rest with
      | nil => simp [digitsFrom]
      | cons c rest => simp [digitsFrom, hr c (by simp)]
  | cons c ds ih =>
    cases width with
    | zero => simp at hw
    | succ width =>
      have hc := digit?_of_isDigit (hd c (by simp))
      have hi := ih width (10 * n + (c.toNat - '0'.toNat)) (fun d hd' ↦ hd d (by simp [hd']))
        (by simpa using hw)
      rw [List.cons_append, digitsFrom, hc, Nat.ofDigitChars_cons, ← hi, Nat.mul_comm]

theorem isDigit_of_mem_padded {width n : Nat} {c : Char} (h : c ∈ padded width n) :
    c.isDigit = true := by
  rcases List.mem_append.mp h with h | h
  · rw [List.eq_of_mem_replicate h]
    decide
  · exact Nat.isDigit_of_mem_toDigits (by decide) (by decide) h

theorem ofDigitChars_padded (width n : Nat) : Nat.ofDigitChars 10 (padded width n) 0 = n := by
  simp [padded, Nat.ofDigitChars_append, Nat.ofDigitChars_replicate_zero,
    Nat.ofDigitChars_ten_toDigits]

theorem padded_ne_nil (width n : Nat) : padded width n ≠ [] := by
  simp [padded, Nat.toDigits_ne_nil]

theorem length_padded {width n : Nat} (hw : 0 < width) (hn : n < Nat.pow 10 width) :
    (padded width n).length = width := by
  have h := (Nat.length_toDigits_le_iff (show 1 < 10 by decide) hw).mpr hn
  simp only [padded, List.length_append, List.length_replicate]
  omega

theorem number?_padded (width limit n : Nat) (rest : List Char)
    (hl : (padded width n).length ≤ limit) (hr : EndsNumber rest) :
    number? limit (padded width n ++ rest) = some (n, rest) := by
  have h := digitsFrom_append (padded width n) rest limit 0 (fun _ ↦ isDigit_of_mem_padded) hl hr
  rw [ofDigitChars_padded] at h
  cases hp : padded width n with
  | nil => exact absurd hp (padded_ne_nil width n)
  | cons c ds =>
    have hc := digit?_of_isDigit (isDigit_of_mem_padded (hp ▸ List.mem_cons_self))
    rw [hp] at h
    simp only [List.cons_append] at h ⊢
    simp [number?, hc, h]

theorem toNat_of_isDigit {c : Char} (h : c.isDigit = true) : 48 ≤ c.toNat ∧ c.toNat ≤ 57 := by
  simp only [Char.isDigit, Bool.and_eq_true, decide_eq_true_eq, ge_iff_le, UInt32.le_iff_toNat_le]
    at h
  exact h

theorem isBlank_of_isDigit {c : Char} (h : c.isDigit = true) : Text.isBlank c = false := by
  have hc := toNat_of_isDigit h
  simp [Text.isBlank]
  omega

theorem skipBlanks_cons {c : Char} (h : Text.isBlank c = false) (cs : List Char) :
    skipBlanks (c :: cs) = c :: cs := by
  simp [skipBlanks, h]

theorem skipBlanks_padded (width n : Nat) (rest : List Char) :
    skipBlanks (padded width n ++ rest) = padded width n ++ rest := by
  cases hp : padded width n with
  | nil => exact absurd hp (padded_ne_nil width n)
  | cons c ds =>
    exact skipBlanks_cons (isBlank_of_isDigit (isDigit_of_mem_padded (hp ▸ List.mem_cons_self))) _

theorem field?_padded {n : Nat} (hn : n < 100) (rest : List Char) (hr : EndsNumber rest) :
    field? 2 (padded 2 n ++ rest) = some (n, rest) := by
  rw [field?, skipBlanks_padded]
  exact number?_padded 2 2 n rest (Nat.le_of_eq (length_padded (by decide) hn)) hr

theorem mark?_cons {c : Char} (h : Text.isBlank c = false) (cs : List Char) :
    mark? c (c :: cs) = some cs := by
  simp [mark?, skipBlanks_cons h]

theorem year?_writeYear (y : Int) (rest : List Char) (hr : EndsNumber rest) :
    year? (writeYear y ++ rest) = some (y, rest) := by
  unfold writeYear
  split
  case isTrue h =>
    have hn := number?_padded 4 (padded 4 y.natAbs ++ rest).length y.natAbs rest (by simp) hr
    have hs := skipBlanks_cons (show Text.isBlank '-' = false by decide)
    simp only [List.cons_append, year?, hs, hn, Option.map_some]
    simp only [Option.some.injEq, Prod.mk.injEq, and_true]
    omega
  case isFalse h =>
    split
    case isTrue h' =>
      have hn := number?_padded 4 4 y.natAbs rest
        (Nat.le_of_eq (length_padded (by decide) (show y.natAbs < 10000 by omega))) hr
      have hs := skipBlanks_padded 4 y.natAbs rest
      cases hp : padded 4 y.natAbs with
      | nil => exact absurd hp (padded_ne_nil 4 _)
      | cons c ds =>
        have hc := toNat_of_isDigit (isDigit_of_mem_padded (hp ▸ List.mem_cons_self))
        rw [hp] at hn hs
        simp only [List.cons_append] at hn hs ⊢
        simp only [year?, hs]
        split
        case h_1 he => simp_all
        case h_2 he => simp_all
        case h_3 =>
          rw [hn]
          simp
          omega
    case isFalse h' =>
      have hn := number?_padded 4 (padded 4 y.natAbs ++ rest).length y.natAbs rest (by simp) hr
      have hs := skipBlanks_cons (show Text.isBlank '+' = false by decide)
      simp only [List.cons_append, year?, hs, hn, Option.map_some]
      simp only [Option.some.injEq, Prod.mk.injEq, and_true]
      omega

theorem fraction?_padded {width n : Nat} (hw : 0 < width) (hw' : width ≤ 9)
    (hn : n < Nat.pow 10 width) (rest : List Char) (hr : EndsNumber rest) :
    fraction? ('.' :: padded width n ++ rest) = some (n * Nat.pow 10 (9 - width), rest) := by
  have hl := length_padded hw hn
  have h := number?_padded width 9 n rest (by omega) hr
  have hd : rest.dropWhile (fun c ↦ (digit? c).isSome) = rest := by
    cases rest with
    | nil => rfl
    | cons c rest => simp [hr c (by simp)]
  have hk : (padded width n ++ rest).length - rest.length = width := by
    rw [List.length_append, hl]
    omega
  simp only [fraction?, List.cons_append, h, hk, hd]

theorem fraction?_writeFraction {nanos : Nat} (hn : nanos < 1000000000) (rest : List Char) :
    fraction? (writeFraction nanos ++ 'Z' :: rest) = some (nanos, 'Z' :: rest) := by
  have hr : EndsNumber ('Z' :: rest) := by simp [EndsNumber]; decide
  unfold writeFraction
  split
  case isTrue h => simp [fraction?, h]
  case isFalse h =>
    split
    case isTrue h₁ =>
      have h₂ : nanos / 1000000 < 1000 := by omega
      rw [fraction?_padded (by decide) (by decide) h₂ _ hr]
      have h₃ : nanos / 1000000 * 1000000 = nanos := by omega
      exact congrArg (fun n ↦ some (n, 'Z' :: rest)) h₃
    case isFalse h₁ =>
      split
      case isTrue h₂ =>
        have h₃ : nanos / 1000 < 1000000 := by omega
        rw [fraction?_padded (by decide) (by decide) h₃ _ hr]
        have h₄ : nanos / 1000 * 1000 = nanos := by omega
        exact congrArg (fun n ↦ some (n, 'Z' :: rest)) h₄
      case isFalse h₂ =>
        rw [fraction?_padded (by decide) (by decide) hn _ hr]
        exact congrArg (fun n ↦ some (n, 'Z' :: rest)) (Nat.mul_one nanos)

theorem endsNumber_cons {c : Char} (h : digit? c = none) (cs : List Char) :
    EndsNumber (c :: cs) := by
  simp [EndsNumber, h]

theorem endsNumber_writeFraction (nanos : Nat) (cs : List Char) :
    EndsNumber (writeFraction nanos ++ 'Z' :: cs) := by
  unfold writeFraction
  repeat' split
  all_goals exact endsNumber_cons (by decide) _

/-- What is read of the parts of a time that are written one after the other. -/
theorem readChars_parts (year : Int) (month day hour minute second nanos : Nat)
    (hm : month < 100) (hd : day < 100) (hh : hour < 100) (hi : minute < 100) (hs : second < 100)
    (hn : nanos < 1000000000) :
    readChars (writeYear year ++ ['-'] ++ padded 2 month ++ ['-'] ++ padded 2 day ++ ['T'] ++
      padded 2 hour ++ [':'] ++ padded 2 minute ++ [':'] ++ padded 2 second ++
      writeFraction nanos ++ ['Z']) =
    let date : Date := ⟨year, month, day⟩
    let t : Instant := ⟨date.dayNumber * dayNanos +
      ((hour * 3600 + minute * 60 + second : Nat) : Int) * 1000000000 + nanos⟩
    if date.isValid ∧ earliestYear ≤ year ∧ year ≤ latestYear ∧ hour ≤ 23 ∧ minute ≤ 59 ∧
      second ≤ 60 ∧ t.inRange then some t else none := by
  have hy := fun cs ↦ year?_writeYear year ('-' :: cs) (endsNumber_cons (by decide) _)
  have hmark := fun cs ↦ mark?_cons (show Text.isBlank '-' = false by decide) cs
  have hcolon := fun cs ↦ mark?_cons (show Text.isBlank ':' = false by decide) cs
  have hmo := fun cs ↦ field?_padded hm ('-' :: cs) (endsNumber_cons (by decide) _)
  have hda := fun cs ↦ field?_padded hd ('T' :: cs) (endsNumber_cons (by decide) _)
  have hho := fun cs ↦ field?_padded hh (':' :: cs) (endsNumber_cons (by decide) _)
  have hmi := fun cs ↦ field?_padded hi (':' :: cs) (endsNumber_cons (by decide) _)
  have hse := field?_padded hs (writeFraction nanos ++ ['Z']) (endsNumber_writeFraction nanos [])
  have hfr := fraction?_writeFraction hn []
  have hoff : offset? ['Z'] = some (0, []) := by
    simp [offset?, skipBlanks_cons (show Text.isBlank 'Z' = false by decide)]
  have hend : skipBlanks [] = [] := rfl
  have hsep : ∀ cs, separator? ('T' :: cs) = some cs := fun _ ↦ rfl
  simp only [List.append_assoc, List.cons_append, List.nil_append]
  -- The parts are read one at a time: going into what follows a part costs twice as much for each.
  rw [readChars, hy]
  dsimp only [Option.bind_eq_bind, Option.bind_some]
  rw [hmark, Option.bind_some, hmo]
  dsimp only [Option.bind_some]
  rw [hmark, Option.bind_some, hda]
  dsimp only [Option.bind_some]
  rw [hsep, Option.bind_some, hho]
  dsimp only [Option.bind_some]
  rw [hcolon, Option.bind_some, hmi]
  dsimp only [Option.bind_some]
  rw [hcolon, Option.bind_some, hse]
  dsimp only [Option.bind_some]
  rw [hfr]
  dsimp only [Option.bind_some]
  rw [hoff]
  simp only [Option.bind_some, hend, List.isEmpty_nil, and_true, Int.sub_zero]

theorem read?_write {t : Instant} (h : t.inRange = true) : read? t.write = some t := by
  have hr := h
  simp only [inRange, Bool.and_eq_true, decide_eq_true_eq] at hr
  obtain ⟨hv, hd⟩ := ofDayNumber_spec (t.nanos / dayNanos)
  have hi := (isValid_iff _).mp hv
  have hl : monthLength (Date.ofDayNumber (t.nanos / dayNanos)).year
      (Date.ofDayNumber (t.nanos / dayNanos)).month ≤ 31 := by
    unfold monthLength
    repeat' split
    all_goals decide
  obtain ⟨hy₁, hy₂⟩ := yearOf_mem (n := t.nanos / dayNanos + epoch) (y := earliestYear)
    (z := latestYear) (by omega) (by omega)
  have hm := Int.emod_nonneg t.nanos (show dayNanos ≠ 0 by decide)
  have hm' := Int.emod_lt_of_pos t.nanos (show 0 < dayNanos by decide)
  have hdiv := Int.mul_ediv_add_emod t.nanos dayNanos
  have hday : dayNanos = 86400000000000 := rfl
  rw [read?, write, String.toList_ofList, writeChars]
  rw [readChars_parts _ _ _ _ _ _ _ (by omega) (by omega) (by omega) (by omega) (by omega)
    (by omega)]
  generalize hrest : (t.nanos % dayNanos).toNat = rest at *
  have ht : (⟨(Date.ofDayNumber (t.nanos / dayNanos)).dayNumber * dayNanos +
      ((rest / 1000000000 / 3600 * 3600 + rest / 1000000000 / 60 % 60 * 60 +
        rest / 1000000000 % 60 : Nat) : Int) * 1000000000 + (rest % 1000000000 : Nat)⟩ : Instant) =
      t := by
    have hn : (Date.ofDayNumber (t.nanos / dayNanos)).dayNumber * dayNanos +
      ((rest / 1000000000 / 3600 * 3600 + rest / 1000000000 / 60 % 60 * 60 +
        rest / 1000000000 % 60 : Nat) : Int) * 1000000000 + (rest % 1000000000 : Nat) =
      t.nanos := by
      rw [hd, Int.mul_comm]
      omega
    rw [hn]
  simp only
  rw [ht, if_pos]
  exact ⟨hv, hy₁, hy₂, by omega, by omega, by omega, h⟩

end Backoffice.Time.Instant
