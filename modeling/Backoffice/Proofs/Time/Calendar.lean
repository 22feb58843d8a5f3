import Backoffice.Time.Calendar

namespace Backoffice.Time

theorem yearOf_spec (n : Int) : yearStart (yearOf n) ≤ n ∧ n < yearStart (yearOf n + 1) := by
  unfold yearOf
  simp only
  split
  case isTrue h =>
    refine ⟨h, ?_⟩
    unfold yearStart at h ⊢
    omega
  case isFalse h =>
    split
    case isTrue h' =>
      refine ⟨?_, by simpa using h'⟩
      unfold yearStart at h' ⊢
      omega
    case isFalse h' => exact ⟨by omega, by omega⟩

theorem monthStart_succ (year : Int) {month : Nat} (h : 1 ≤ month) :
    monthStart year (month + 1) = monthStart year month + monthLength year month := by
  obtain ⟨m, rfl⟩ := Nat.exists_eq_add_of_le' h
  rfl

theorem isLeap_iff (year : Int) :
    isLeap year = true ↔ year % 4 = 0 ∧ (year % 100 ≠ 0 ∨ year % 400 = 0) := by
  simp [isLeap]

theorem monthStart_thirteen (year : Int) :
    (monthStart year 13 : Int) = yearStart (year + 1) - yearStart year := by
  have h : monthStart year 13 = 337 + monthLength year 2 := by
    simp only [monthStart, monthLength]
    omega
  have hl := isLeap_iff year
  rw [h]
  unfold monthLength yearStart
  by_cases hy : isLeap year = true
  · have hy' := hl.mp hy
    simp only [hy, if_true]
    omega
  · have hy' := mt hl.mpr hy
    simp only [hy, if_false, Bool.false_eq_true]
    omega

theorem monthOf_spec (year : Int) (steps month rest : Nat) (hm : 1 ≤ month)
    (hr : monthStart year month + rest < monthStart year (month + steps + 1)) :
    month ≤ (monthOf year steps month rest).1 ∧
      (monthOf year steps month rest).1 ≤ month + steps ∧
      1 ≤ (monthOf year steps month rest).2 ∧
      (monthOf year steps month rest).2 ≤ monthLength year (monthOf year steps month rest).1 ∧
      monthStart year (monthOf year steps month rest).1 + (monthOf year steps month rest).2 =
        monthStart year month + rest + 1 := by
  induction steps generalizing month rest with
  | zero =>
    rw [Nat.add_zero, monthStart_succ year hm] at hr
    simp only [monthOf]
    omega
  | succ steps ih =>
    have hs := monthStart_succ year hm
    unfold monthOf
    split
    case isTrue h => simp only; omega
    case isFalse h =>
      have hn : month + 1 + steps + 1 = month + (steps + 1) + 1 := by omega
      have hi := ih (month + 1) (rest - monthLength year month) (by omega)
        (by rw [hn]; omega)
      omega

theorem isValid_iff (d : Date) :
    d.isValid = true ↔
      1 ≤ d.month ∧ d.month ≤ 12 ∧ 1 ≤ d.day ∧ d.day ≤ monthLength d.year d.month := by
  simp [Date.isValid, and_assoc]

/-- The date of a day is one of the calendar, and counts up to that day. -/
theorem ofDayNumber_spec (n : Int) :
    (Date.ofDayNumber n).isValid = true ∧ (Date.ofDayNumber n).dayNumber = n := by
  obtain ⟨h₁, h₂⟩ := yearOf_spec (n + epoch)
  have hl := monthStart_thirteen (yearOf (n + epoch))
  have hm := monthOf_spec (yearOf (n + epoch)) 11 1
    (n + epoch - yearStart (yearOf (n + epoch))).toNat (Nat.le_refl 1)
    (by rw [show 1 + 11 + 1 = 13 from rfl]; simp only [monthStart] at hl ⊢; omega)
  have h₀ : monthStart (yearOf (n + epoch)) 1 = 0 := rfl
  rw [isValid_iff]
  simp only [Date.ofDayNumber, Date.dayNumber]
  omega

theorem yearStart_mono {y z : Int} (h : y ≤ z) : yearStart y ≤ yearStart z := by
  unfold yearStart
  omega

/-- The years of a stretch of days run from the year of the first to the year of the last. -/
theorem yearOf_mem {n y z : Int} (h₁ : yearStart y ≤ n) (h₂ : n < yearStart (z + 1)) :
    y ≤ yearOf n ∧ yearOf n ≤ z := by
  obtain ⟨h₃, h₄⟩ := yearOf_spec n
  constructor
  · refine Int.not_lt.mp fun h ↦ ?_
    have := yearStart_mono (show yearOf n + 1 ≤ y by omega)
    omega
  · refine Int.not_lt.mp fun h ↦ ?_
    have := yearStart_mono (show z + 1 ≤ yearOf n by omega)
    omega

end Backoffice.Time
