import Backoffice.Proofs.Storage.Reopening

namespace Backoffice

open Time (Instant)

theorem Durable.perform_eq_error {α : Type} {d d' : Durable} {c : StoreCall} {f : Table → α × Table}
    {e : StorageError} (h : d.perform c f = (.error e, d')) : d' = { d with calls := d.calls + 1 } := by
  unfold perform at h
  split at h
  · exact (Prod.mk.inj h).2.symm
  · split at h
    · exact (Prod.mk.inj h).2.symm
    · cases (Prod.mk.inj h).1

namespace Profile

variable {α β : Type} {p p' : Profile} {e : StorageError}

theorem bind_eq_error {act : ProfileM α} {f : α → ProfileM β} (h : (act >>= f) p = (.error e, p')) :
    act p = (.error e, p') ∨ ∃ a p₁, act p = (.ok a, p₁) ∧ f a p₁ = (.error e, p') := by
  simp only [Bind.bind, ExceptT.bind, ExceptT.mk, StateT.bind] at h
  cases hr : act p with
  | mk r p₁ =>
    rw [hr] at h
    cases r with
    | error e' =>
      cases h
      exact .inl rfl
    | ok a => exact .inr ⟨a, p₁, rfl, h⟩

theorem durably_eq_error {c : StoreCall} {f : Table → α × Table}
    (h : durably (·.perform c f) p = (.error e, p')) :
    (p.host.durable.perform c f).1 = .error e ∧ p' = p.later p.host.durable.entries := by
  simp only [durably] at h
  obtain ⟨hr, rfl⟩ := Prod.mk.inj h
  have hd : p.host.durable.perform c f = (.error e, (p.host.durable.perform c f).2) := Prod.ext hr rfl
  refine ⟨hr, ?_⟩
  rw [Durable.perform_eq_error hd]
  rfl

theorem get?_withoutCookie (name n : String) :
    (p.withoutCookie name).cookies.get? n = if n = name then none else p.cookies.get? n :=
  Table.get?_erase _ _ _

structure OnHost (act : ProfileM α) : Prop where
  same : ∀ {p q : Profile}, p.host = q.host → (act p).1 = (act q).1 ∧ (act p).2.host = (act q).2.host

namespace OnHost

theorem pure (a : α) : OnHost (Pure.pure a) := ⟨fun h ↦ ⟨rfl, h⟩⟩

theorem throw (e : StorageError) : OnHost (throw e : ProfileM α) := ⟨fun h ↦ ⟨rfl, h⟩⟩

theorem durably (act : Durable → Except StorageError α × Durable) : OnHost (durably act) := by
  refine ⟨fun h ↦ ?_⟩
  simp only [Profile.durably, h, and_self]

theorem get {f : Profile → ProfileM β} (hn : ∀ {p q : Profile}, p.host = q.host → f p = f q)
    (hf : ∀ p, OnHost (f p)) : OnHost (get >>= f) := by
  refine ⟨fun {p q} h ↦ ?_⟩
  rw [get_bind, get_bind, hn h]
  exact (hf q).same h

theorem bind {act : ProfileM α} {f : α → ProfileM β} (h : OnHost act) (hf : ∀ a, OnHost (f a)) :
    OnHost (act >>= f) := by
  refine ⟨fun {p q} hpq ↦ ?_⟩
  obtain ⟨hr, hh⟩ := h.same hpq
  cases hp : act p with
  | mk r p' =>
    cases hq : act q with
    | mk r' q' =>
      simp only [hp, hq] at hr hh
      subst hr
      cases r with
      | error e =>
        simp only [Bind.bind, ExceptT.bind, ExceptT.mk, StateT.bind, hp, hq]
        exact ⟨rfl, hh⟩
      | ok a =>
        rw [bind_of_ok hp, bind_of_ok hq]
        exact (hf a).same hh

end OnHost

theorem durableCookie_onHost (name : String) : OnHost (durableCookie name) := by
  refine (OnHost.durably _).bind fun entry ↦ ?_
  split
  · exact .pure none
  · split
    · exact .throw _
    · refine .get (fun h ↦ ?_) fun p ↦ ?_
      · rw [now, now, h]
      · split
        · exact .pure _
        · exact (OnHost.durably _).bind fun _ ↦ .pure none

def refusing (refuses : Nat → StoreCall → Bool) (p : Profile) : Profile :=
  { p with host := { p.host with durable := { p.host.durable with calls := 0, refuses } } }

/-- What reading a cookie comes to if the store refuses some calls. -/
def reading (name : String) (p : Profile) (refuses : Nat → StoreCall → Bool) :
    Except StorageError (Option String) := (cookie name (p.refusing refuses)).1

/-- What reading the durable cookie of a name comes to if the store refuses some calls. -/
def durableReading (name : String) (p : Profile) (refuses : Nat → StoreCall → Bool) :
    Except StorageError (Option String) := (durableCookie name (p.refusing refuses)).1

variable {name n v : String} {refuses : Nat → StoreCall → Bool}

theorem reading_of_some (h : p.cookies.get? n = some v) : p.reading n refuses = .ok (some v) := by
  have ho : (p.refusing refuses).cookies.get? n = some v := h
  rw [reading, cookie, get_bind, ho]
  rfl

theorem reading_of_none (h : p.cookies.get? n = none) : p.reading n refuses = p.durableReading n refuses := by
  have ho : (p.refusing refuses).cookies.get? n = none := h
  rw [reading, cookie, get_bind, ho]
  rfl

theorem durableReading_withoutCookie : (p.withoutCookie name).durableReading n = p.durableReading n :=
  funext fun refuses ↦
    ((durableCookie_onHost n).same (p := (p.withoutCookie name).refusing refuses) (q := p.refusing refuses) rfl).1

theorem reading_withoutCookie_of_ne (h : n ≠ name) : (p.withoutCookie name).reading n = p.reading n := by
  have hj : (p.withoutCookie name).cookies.get? n = p.cookies.get? n := by rw [get?_withoutCookie, if_neg h]
  funext refuses
  cases hv : p.cookies.get? n with
  | some v => rw [reading_of_some hv, reading_of_some (hj.trans hv)]
  | none => rw [reading_of_none hv, reading_of_none (hj.trans hv), durableReading_withoutCookie]

theorem reading_withoutCookie_self : (p.withoutCookie name).reading name = p.durableReading name := by
  have hj : (p.withoutCookie name).cookies.get? name = none := by rw [get?_withoutCookie, if_pos rfl]
  funext refuses
  rw [reading_of_none hj, durableReading_withoutCookie]

theorem durableReading_of_absent (h : p.host.durable.entries.get? (cookieKey n) = none) :
    p.durableReading n refuses ≠ .ok (some v) := by
  intro hr
  obtain ⟨entry, p₁, h₁, h₂⟩ := bind_eq_ok (Prod.ext hr rfl : durableCookie n (p.refusing refuses) = (_, _))
  obtain rfl : entry = none := (durably_eq_ok h₁).1.trans h
  cases h₂

/-- What is left where setting a cookie is refused: for a session cookie all that there was, else all but the cookie
of the session. -/
theorem setCookie_eq_error {value : String} {expiry : Option Instant}
    (h : setCookie name value expiry p = (.error e, p')) :
    p' = (if expiry = none then p else p.withoutCookie name).later p.host.durable.entries := by
  cases expiry with
  | some t =>
    have hd : durably (·.set (cookieKey name) (StoredCookie.write ⟨value, t⟩)) (p.withoutCookie name) =
      (.error e, p') := h
    exact (durably_eq_error hd).2
  | none =>
    rcases bind_eq_error h with h | ⟨⟨⟩, p₁, -, h⟩
    · exact (durably_eq_error h).2
    · cases h

/-- Setting a cookie that is refused leaves the other cookies as they read. It leaves the one of its name too, unless
it was to live for a time where the session has a cookie: that one is lost, and what is kept for a time under the name
reads instead. Beside a cookie of the session nothing is, as long as cookies are only set and removed. -/
theorem setCookie_refused {value : String} {expiry : Option Instant}
    (h : setCookie name value expiry p = (.error e, p')) :
    (∀ n, n ≠ name → p'.reading n = p.reading n) ∧
    (p'.reading name = p.reading name ↔ expiry = none ∨ p.cookies.get? name = none) ∧
    ∀ t v, expiry = some t → p.cookies.get? name = some v → ∀ refuses,
      p.reading name refuses = .ok (some v) ∧ p'.reading name refuses = p.durableReading name refuses ∧
      (p.Apart → ∀ w, p'.reading name refuses ≠ .ok (some w)) := by
  obtain rfl := setCookie_eq_error h
  cases expiry with
  | none =>
    simp only [if_true]
    exact ⟨fun _ _ ↦ rfl, iff_of_true rfl (.inl trivial), nofun⟩
  | some t =>
    simp only [reduceCtorEq, if_false, false_or]
    have hdropped : ((p.withoutCookie name).later p.host.durable.entries).reading name = p.durableReading name :=
      reading_withoutCookie_self
    refine ⟨fun n hn ↦ reading_withoutCookie_of_ne hn, ⟨fun hr ↦ ?_, fun hj ↦ ?_⟩, fun _ v _ hv refuses ↦ ?_⟩
    · -- A store that refuses everything tells a cookie of the session from all others.
      rw [hdropped] at hr
      cases hv : p.cookies.get? name with
      | none => rfl
      | some v =>
        have hs := congrFun hr fun _ _ ↦ true
        rw [reading_of_some hv] at hs
        cases hs
    · exact hdropped.trans (funext fun refuses ↦ (reading_of_none hj).symm)
    · rw [hdropped]
      exact ⟨reading_of_some hv, rfl, fun ha w ↦ durableReading_of_absent (ha name v hv)⟩

/-- A store that refuses the new cookie loses the one of the session. -/
theorem setCookie_refused_over_session_cookie :
    let durable : Durable := ⟨.memory, [], 0, fun _ c ↦ c = .set (cookieKey "t")⟩
    let host : Host := ⟨durable, ⟨0⟩, fun _ ↦ ⟨List.replicate 32 0, rfl⟩, 0⟩
    let p := (setCookie "u" "2" none (setCookie "t" "1" none (blank host)).2).2
    let p' := (setCookie "t" "3" (some ⟨1⟩) p).2
    ∃ e, setCookie "t" "3" (some ⟨1⟩) p = (.error e, p') ∧ p.reading "t" (fun _ _ ↦ false) = .ok (some "1") ∧
      (∀ w, p'.reading "t" (fun _ _ ↦ false) ≠ .ok (some w)) ∧ p'.reading "u" = p.reading "u" := by
  intro durable host p p'
  have h : setCookie "t" "3" (some ⟨1⟩) p = (.error (.refused (.set (cookieKey "t"))), p') := rfl
  have ha : p.Apart := setCookie_staysApart _ _ _ _ (setCookie_staysApart _ _ _ _ (apart_blank host))
  obtain ⟨hother, -, hlost⟩ := setCookie_refused h
  obtain ⟨hbefore, -, hafter⟩ := hlost ⟨1⟩ "1" rfl rfl fun _ _ ↦ false
  exact ⟨_, h, hbefore, hafter ha, hother "u" (by decide)⟩

end Profile

end Backoffice
