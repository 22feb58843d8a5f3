namespace Backoffice

abbrev Table := List (String × String)

namespace Table

def get? (key : String) : Table → Option String
  | [] => none
  | (k, v) :: rest => if k = key then some v else get? key rest

def put (key value : String) : Table → Table
  | [] => [(key, value)]
  | (k, v) :: rest =>
    if k = key then (key, value) :: rest
    else if key < k then (key, value) :: (k, v) :: rest
    else (k, v) :: put key value rest

def erase (key : String) (t : Table) : Table := t.filter fun e ↦ e.1 ≠ key

theorem get?_cons (k v other : String) (rest : Table) :
    get? other ((k, v) :: rest) = if k = other then some v else rest.get? other := rfl

theorem mem_of_get? {t : Table} {key text : String} (h : t.get? key = some text) : (key, text) ∈ t := by
  induction t with
  | nil => cases h
  | cons e rest ih =>
    obtain ⟨k, v⟩ := e
    rw [get?_cons] at h
    split at h
    · next hk =>
      cases h
      exact hk ▸ List.mem_cons_self
    · exact List.mem_cons_of_mem _ (ih h)

theorem get?_put (t : Table) (key value other : String) :
    (t.put key value).get? other = if other = key then some value else t.get? other := by
  induction t with
  | nil => simp [put, get?, eq_comm]
  | cons e rest ih =>
    obtain ⟨k, v⟩ := e
    unfold put
    split
    · next h =>
      subst h
      rw [get?_cons, get?_cons]
      by_cases ho : k = other
      · simp [ho]
      · simp [ho, Ne.symm ho]
    · split
      · rw [get?_cons]
        by_cases ho : key = other
        · simp [ho]
        · simp [ho, Ne.symm ho]
      · next h _ =>
        rw [get?_cons, get?_cons, ih]
        by_cases ho : k = other
        · subst ho
          simp [h]
        · simp [ho]

theorem get?_erase (t : Table) (key other : String) :
    (t.erase key).get? other = if other = key then none else t.get? other := by
  induction t with
  | nil => simp [erase, get?]
  | cons e rest ih =>
    obtain ⟨k, v⟩ := e
    have h₁ : erase key ((k, v) :: rest) =
        if k = key then erase key rest else (k, v) :: erase key rest := by
      by_cases h : k = key <;> simp [erase, h]
    rw [h₁]
    by_cases h : k = key
    · subst h
      simp only [if_pos, ih, get?]
      by_cases ho : other = k
      · simp [ho]
      · simp [ho, Ne.symm ho]
    · simp only [if_neg h, get?, ih]
      by_cases ho : k = other
      · subst ho
        simp [h]
      · simp [ho]

end Table

end Backoffice
