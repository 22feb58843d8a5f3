import Backoffice.Proofs.Storage.Reopening

namespace Backoffice

namespace Table

def without (keys : List String) (t : Table) : Table := t.filter fun e ↦ e.1 ∉ keys

@[simp] theorem without_nil (t : Table) : t.without [] = t := by simp [without]

theorem without_without (t : Table) (keys more : List String) :
    (t.without keys).without more = t.without (keys ++ more) := by
  rw [without, without, List.filter_filter]
  exact List.filter_congr fun e _ ↦ by simp [Bool.and_comm]

theorem without_congr (t : Table) {keys keys' : List String} (h : ∀ k, k ∈ keys ↔ k ∈ keys') :
    t.without keys = t.without keys' :=
  List.filter_congr fun e _ ↦ by simp only [h e.1]

theorem erase_eq_without (t : Table) (key : String) : t.erase key = t.without [key] := by
  simp [erase, without]

theorem get?_without (t : Table) (keys : List String) (key : String) :
    (t.without keys).get? key = if key ∈ keys then none else t.get? key := by
  induction keys generalizing t with
  | nil => simp
  | cons k keys ih =>
    have hk : t.without (k :: keys) = (t.erase k).without keys := by
      rw [erase_eq_without, without_without, List.singleton_append]
    rw [hk, ih, get?_erase]
    by_cases hm : key ∈ keys
    · simp [hm]
    · simp [hm]

theorem get?_without_of_mem (t : Table) {keys : List String} {key : String} (h : key ∈ keys) :
    (t.without keys).get? key = none := by
  rw [get?_without, if_pos h]

end Table

namespace Profile

/-- A profile without some cookies of the session, some durable entries and some entries of the session
store. -/
structure Drops (cookies entries session : List String) (p p' : Profile) : Prop where
  cookies : p'.cookies = p.cookies.without cookies
  entries : p'.host.durable.entries = p.host.durable.entries.without entries
  session : p'.session = p.session.without session

abbrev Alike (p p' : Profile) : Prop := Drops [] [] [] p p'

variable {p p' p'' : Profile} {cookies entries session cookies' entries' session' : List String}

theorem Drops.trans (h : Drops cookies entries session p p')
    (h' : Drops cookies' entries' session' p' p'') :
    Drops (cookies ++ cookies') (entries ++ entries') (session ++ session') p p'' where
  cookies := by rw [h'.cookies, h.cookies, Table.without_without]
  entries := by rw [h'.entries, h.entries, Table.without_without]
  session := by rw [h'.session, h.session, Table.without_without]

theorem later_drops {entries : List String} {p' : Profile}
    (h : p' = p.later (p.host.durable.entries.without entries)) : Drops [] entries [] p p' := by
  subst h
  exact ⟨(Table.without_nil _).symm, rfl, (Table.without_nil _).symm⟩

theorem remove_drops {key : String} (h : durably (·.remove key) p = (.ok (), p')) :
    Drops [] [key] [] p p' := by
  obtain ⟨-, he⟩ := durably_eq_ok (f := fun t ↦ ((), t.erase key)) h
  exact later_drops (he.trans (by rw [Table.erase_eq_without]))

theorem removeCookie_drops {name : String} (h : removeCookie name p = (.ok (), p')) :
    Drops [name] [cookieKey name] [] p p' := by
  have hj : Drops [name] [] [] p (p.withoutCookie name) :=
    ⟨Table.erase_eq_without _ _, (Table.without_nil _).symm, (Table.without_nil _).symm⟩
  exact hj.trans (remove_drops (p := p.withoutCookie name) h)

theorem sessionRemove_drops {key : String} (h : sessionRemove key p = (.ok (), p')) :
    Drops [] [] [key] p p' := by
  cases h
  exact ⟨(Table.without_nil _).symm, (Table.without_nil _).symm, Table.erase_eq_without _ _⟩

theorem clearCredential_drops (h : clearCredential p = (.ok (), p')) :
    Drops [accessCookie, refreshCookie]
      [cookieKey accessCookie, cookieKey refreshCookie, localKey rememberKey] [] p p' := by
  obtain ⟨⟨⟩, p₁, h₁, h⟩ := bind_eq_ok h
  obtain ⟨⟨⟩, p₂, h₂, h₃⟩ := bind_eq_ok h
  exact (removeCookie_drops h₁).trans ((removeCookie_drops h₂).trans (remove_drops h₃))

theorem clearRemembered_drops (h : clearRemembered p = (.ok (), p')) :
    Drops [] [localKey rememberKey, localKey emailKey] [loginKey] p p' := by
  obtain ⟨⟨⟩, p₁, h₁, h⟩ := bind_eq_ok h
  obtain ⟨⟨⟩, p₂, h₂, h₃⟩ := bind_eq_ok h
  exact (remove_drops h₁).trans ((remove_drops h₂).trans (sessionRemove_drops h₃))

def Misses {α : Type} (act : ProfileM (Option α)) (p : Profile) : Prop :=
  Alike p (act p).2 ∧ ∀ v, (act p).1 = .ok v → v = none

theorem get_misses {key : String} (h : p.host.durable.entries.get? key = none) :
    Misses (durably (·.get key)) p := by
  have he := entries_perform p.host.durable (.get key) fun t ↦ (t.get? key, t)
  refine ⟨⟨(Table.without_nil _).symm, ?_, (Table.without_nil _).symm⟩, fun v hv ↦ ?_⟩
  · rw [Table.without_nil]
    exact he.elim id id
  · have hd : durably (·.get key) p = (.ok v, (durably (·.get key) p).2) := Prod.ext hv rfl
    obtain ⟨rfl, -⟩ := durably_eq_ok (f := fun t ↦ (t.get? key, t)) hd
    exact h

variable {α β : Type}

theorem Misses.bind {act : ProfileM (Option α)} {f : Option α → ProfileM (Option β)}
    (h : Misses act p) (hf : f none = pure none) : Misses (act >>= f) p := by
  obtain ⟨ha, hn⟩ := h
  simp only [Misses, Bind.bind, ExceptT.bind, ExceptT.mk, StateT.bind]
  cases hr : act p with
  | mk r p' =>
    rw [hr] at ha hn
    cases r with
    | error e => exact ⟨ha, nofun⟩
    | ok v =>
      cases hn v rfl
      simp only [ExceptT.bindCont, hf]
      exact ⟨ha, fun v hv ↦ (Except.ok.inj hv).symm⟩

theorem cookie_misses {name : String} (hj : p.cookies.get? name = none)
    (he : p.host.durable.entries.get? (cookieKey name) = none) : Misses (cookie name) p := by
  have hc : cookie name p = durableCookie name p := by rw [cookie, get_bind, hj]
  have hd : Misses (durableCookie name) p := (get_misses he).bind rfl
  rwa [Misses, hc]

theorem Misses.orElse {act : ProfileM (Option α)} (h : Misses act p) :
    (Profile.orElse none act p).1 = none ∧ Alike p (Profile.orElse none act p).2 := by
  obtain ⟨ha, hn⟩ := h
  simp only [Profile.orElse, ExceptT.run, Bind.bind, StateT.bind]
  cases hr : act p with
  | mk r p' =>
    rw [hr] at ha hn
    cases r with
    | error e => exact ⟨rfl, ha⟩
    | ok v =>
      cases hn v rfl
      exact ⟨rfl, ha⟩

theorem credential_of_absent (hj : p.cookies.get? accessCookie = none)
    (he : p.host.durable.entries.get? (cookieKey accessCookie) = none) :
    (credential p).1 = none ∧ Alike p (credential p).2 := by
  obtain ⟨hn, ha⟩ := (cookie_misses hj he).orElse
  simp only [credential, Bind.bind, StateT.bind]
  cases hr : Profile.orElse none (cookie accessCookie) p with
  | mk v p' =>
    rw [hr] at hn ha
    cases hn
    exact ⟨rfl, ha⟩

theorem rememberMe_of_absent (h : p.host.durable.entries.get? (localKey rememberKey) = none) :
    (rememberMe p).1 = false := by
  obtain ⟨-, hn⟩ := get_misses h
  simp only [rememberMe, localGet, Profile.orElse, ExceptT.run, Bind.bind, StateT.bind, ExceptT.bind,
    ExceptT.mk]
  cases hr : durably (·.get (localKey rememberKey)) p with
  | mk r p' =>
    rw [hr] at hn
    cases r with
    | error e => rfl
    | ok v =>
      cases hn v rfl
      rfl

theorem savedEmail_of_absent (h : p.host.durable.entries.get? (localKey emailKey) = none) :
    (savedEmail p).1 = none := by
  obtain ⟨hn, -⟩ := (get_misses h).orElse
  change nonempty? (Profile.orElse none (localGet emailKey) p).1 = none
  exact congrArg nonempty? hn

theorem lastLogin_of_absent (h : p.session.get? loginKey = none) : (lastLogin p).1 = none := by
  change (p.session.get? loginKey).bind StoredLogin.read? = none
  rw [h]
  rfl

end Profile

end Backoffice
