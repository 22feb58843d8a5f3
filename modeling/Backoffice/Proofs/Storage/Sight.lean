import Backoffice.Proofs.Json.Texts
import Backoffice.Proofs.Time.Instant
import Backoffice.Storage.Profile

namespace Backoffice

open Time (Instant)

namespace StoredCookie

theorem read?_write {c : StoredCookie} (h : c.expiresAt.inRange = true) :
    read? c.write = some c := by
  obtain ⟨v, t⟩ := c
  have hr := Json.read_compact_textMembers "value" v [("expiresAt", t.write)]
  have ht : Instant.read? t.write = some t := Instant.read?_write h
  simp only [Json.textMembers, Json.textDocuments, List.map_cons, List.map_nil] at hr
  simp only [read?, write, decodeText, hr]
  simp [decode, schema, Schema.read, Schema.readMembers, Field.required, Decoder.text,
    decodeInstant, ht, Row.required, List.lookup_cons, Except.map, Except.toOption, bind, Except.bind,
    pure, Except.pure]

end StoredCookie

namespace Durable

/-- A store that is there and refuses no call from now on. -/
structure Reliable (d : Durable) : Prop where
  present : d.engine ≠ .missing
  accepts : ∀ n c, d.calls ≤ n → d.refuses n c = false

variable {α : Type} {d d' : Durable} {c : StoreCall} {act : Table → α × Table} {a : α}

theorem perform_eq_ok (h : d.perform c act = (.ok a, d')) :
    a = (act d.entries).1 ∧
      d' = { d with calls := d.calls + 1, entries := (act d.entries).2 } := by
  unfold perform at h
  split at h
  · simp at h
  · split at h
    · simp at h
    · simp only [Prod.mk.injEq, Except.ok.injEq] at h
      exact ⟨h.1.symm, h.2.symm⟩

theorem Reliable.perform (h : d.Reliable) (c : StoreCall) (act : Table → α × Table) :
    d.perform c act = (.ok (act d.entries).1,
      { d with calls := d.calls + 1, entries := (act d.entries).2 }) := by
  simp [Durable.perform, h.accepts d.calls c (Nat.le_refl _), h.present]

theorem Reliable.later (h : d.Reliable) (entries : Table) :
    Reliable { d with calls := d.calls + 1, entries } :=
  ⟨h.present, fun n c hn ↦ h.accepts n c (Nat.le_of_succ_le hn)⟩

end Durable

/-- A cookie as a profile shows it. Without an expiry it lives for the session. -/
structure Cookie where
  value : String
  expiry : Option Instant
  deriving DecidableEq, Repr

structure Sight where
  now : Instant
  cookies : String → Option Cookie
  kept : String → Option String
  session : Table
  deviceIds : Nat → DeviceId
  issued : Nat

namespace Sight

def setCookie (name : String) (c : Option Cookie) (s : Sight) : Sight :=
  { s with cookies := fun n ↦ if n = name then c else s.cookies n }

@[simp] theorem setCookie_setCookie (name : String) (c c' : Option Cookie) (s : Sight) :
    (s.setCookie name c).setCookie name c' = s.setCookie name c' := by
  refine congrArg (fun cookies ↦ { s with cookies }) (funext fun n ↦ ?_)
  by_cases h : n = name <;> simp [setCookie, h]

theorem setCookie_cookies (name : String) (s : Sight) :
    s.setCookie name (s.cookies name) = s := by
  refine congrArg (fun cookies ↦ { s with cookies }) (funext fun n ↦ ?_)
  by_cases h : n = name <;> simp [h]

def keep (key : String) (v : Option String) (s : Sight) : Sight :=
  { s with kept := fun k ↦ if k = key then v else s.kept k }

end Sight

namespace Profile

@[simp] theorem cookieKey_inj {m n : String} : cookieKey m = cookieKey n ↔ m = n :=
  String.append_right_inj _

@[simp] theorem localKey_inj {m n : String} : localKey m = localKey n ↔ m = n :=
  String.append_right_inj _

@[simp] theorem cookieKey_ne_localKey (m n : String) : cookieKey m ≠ localKey n := by
  intro h
  have h₁ := congrArg String.toList h
  simp [cookieKey, cookieStart, localKey, String.toList_append] at h₁

/-- The durable cookie in an entry, if it can be read and is live. -/
def liveCookie (now : Instant) (entry : Option String) : Option Cookie :=
  match entry.bind StoredCookie.read? with
  | some c => if isLive (some c.expiresAt) now then some ⟨c.value, some c.expiresAt⟩ else none
  | none => none

@[simp] theorem liveCookie_none (now : Instant) : liveCookie now none = none := rfl

theorem liveCookie_write (now : Instant) {t : Instant} (value : String) (hr : t.inRange = true) :
    liveCookie now (some (StoredCookie.write ⟨value, t⟩)) =
      (some ⟨value, some t⟩ : Option Cookie).filter fun c ↦ isLive c.expiry now := by
  simp only [liveCookie, Option.bind_some, StoredCookie.read?_write (c := ⟨value, t⟩) hr,
    Option.filter_some]

theorem liveCookie_filter (now : Instant) (entry : Option String) :
    (liveCookie now entry).filter (fun c ↦ c.expiry = none) = none := by
  unfold liveCookie
  split
  · split <;> rfl
  · rfl

/-- The cookie of a name, given the one of the session and the durable entry. -/
def shown (now : Instant) (jar entry : Option String) : Option Cookie :=
  match jar with
  | some v => some ⟨v, none⟩
  | none => liveCookie now entry

def sight (p : Profile) : Sight where
  now := p.now
  cookies name := shown p.now (p.cookies.get? name) (p.host.durable.entries.get? (cookieKey name))
  kept key := p.host.durable.entries.get? (localKey key)
  session := p.session
  deviceIds := p.host.deviceIds
  issued := p.host.issued

def Reliable (p : Profile) : Prop := p.host.durable.Reliable

variable {α β : Type}

/-- Work that comes to `a` and makes the sight `s` into `s'`, on a store that refuses nothing. -/
def Does (act : StateM Profile α) (s : Sight) (a : α) (s' : Sight) : Prop :=
  ∀ p : Profile, p.Reliable → p.sight = s → ∃ p', act p = (a, p') ∧ p'.Reliable ∧ p'.sight = s'

/-- Work that comes to `a` and makes the sight `s` into `s'` whenever it does not fail, and that
fails only if the store refuses a call. -/
structure Succeeds (act : ProfileM α) (s : Sight) (a : α) (s' : Sight) : Prop where
  effect : ∀ {p p' : Profile} {b : α}, p.sight = s → act p = (.ok b, p') → b = a ∧ p'.sight = s'
  total : ∀ {p : Profile}, p.Reliable → p.sight = s → ∃ p', act p = (.ok a, p') ∧ p'.Reliable

theorem Does.pure (a : α) (s : Sight) : Does (pure a) s a s := fun p hp hs ↦ ⟨p, rfl, hp, hs⟩

theorem Does.bind {act : StateM Profile α} {f : α → StateM Profile β} {s s' s'' : Sight} {a : α}
    {b : β} (h : Does act s a s') (hf : Does (f a) s' b s'') : Does (act >>= f) s b s'' := by
  intro p hp hs
  obtain ⟨p', he, hp', hs'⟩ := h p hp hs
  obtain ⟨p'', he', hp'', hs''⟩ := hf p' hp' hs'
  exact ⟨p'', by simp only [Bind.bind, StateT.bind, he, he'], hp'', hs''⟩

theorem Succeeds.does {act : ProfileM α} {s s' : Sight} {a : α} (h : Succeeds act s a s') :
    Does act.run s (.ok a) s' := by
  intro p hp hs
  obtain ⟨p', he, hp'⟩ := h.total hp hs
  exact ⟨p', he, hp', (h.effect hs he).2⟩

theorem Succeeds.pure (a : α) (s : Sight) : Succeeds (Pure.pure a) s a s where
  effect hs he := by
    cases he
    exact ⟨rfl, hs⟩
  total hp _ := ⟨_, rfl, hp⟩

theorem bind_eq_ok {act : ProfileM α} {f : α → ProfileM β} {p p'' : Profile} {b : β}
    (h : (act >>= f) p = (.ok b, p'')) : ∃ a p', act p = (.ok a, p') ∧ f a p' = (.ok b, p'') := by
  have hb : (act >>= f) p = match act p with
    | (.ok a, p') => f a p'
    | (.error e, p') => (.error e, p') := by
    simp only [Bind.bind, ExceptT.bind, ExceptT.mk, StateT.bind]
    obtain ⟨r, p'⟩ := act p
    cases r <;> rfl
  rw [hb] at h
  split at h
  · next a p' he => exact ⟨a, p', he, h⟩
  · cases h

theorem bind_of_ok {act : ProfileM α} {f : α → ProfileM β} {p p' : Profile} {a : α}
    (h : act p = (.ok a, p')) : (act >>= f) p = f a p' := by
  simp only [Bind.bind, ExceptT.bind, ExceptT.mk, StateT.bind, h]
  rfl

theorem get_bind (f : Profile → ProfileM β) (p : Profile) : (get >>= f) p = f p p := rfl

theorem Succeeds.bind {act : ProfileM α} {f : α → ProfileM β} {s s' s'' : Sight} {a : α} {b : β}
    (h : Succeeds act s a s') (hf : Succeeds (f a) s' b s'') : Succeeds (act >>= f) s b s'' where
  effect hs he := by
    obtain ⟨a', p', h₁, h₂⟩ := bind_eq_ok he
    obtain ⟨rfl, hs'⟩ := h.effect hs h₁
    exact hf.effect hs' h₂
  total hp hs := by
    obtain ⟨p', h₁, hp'⟩ := h.total hp hs
    obtain ⟨p'', h₂, hp''⟩ := hf.total hp' (h.effect hs h₁).2
    exact ⟨p'', (bind_of_ok h₁).trans h₂, hp''⟩

def later (p : Profile) (entries : Table) : Profile :=
  { p with host := { p.host with
      durable := { p.host.durable with calls := p.host.durable.calls + 1, entries } } }

theorem sight_later (p : Profile) (entries : Table) :
    (p.later entries).sight = { p.sight with
      cookies := fun name ↦ shown p.now (p.cookies.get? name) (entries.get? (cookieKey name))
      kept := fun key ↦ entries.get? (localKey key) } := rfl

theorem Reliable.later {p : Profile} (hp : p.Reliable) (entries : Table) :
    (p.later entries).Reliable :=
  Durable.Reliable.later hp entries

theorem Reliable.durably {p : Profile} (hp : p.Reliable) (c : StoreCall)
    (f : Table → α × Table) : durably (·.perform c f) p =
      (.ok (f p.host.durable.entries).1, p.later (f p.host.durable.entries).2) := by
  simp only [Profile.durably, Durable.Reliable.perform hp c f, Profile.later]

theorem Reliable.durably_get {p : Profile} (hp : p.Reliable) (key : String) :
    Profile.durably (·.get key) p =
      (.ok (p.host.durable.entries.get? key), p.later p.host.durable.entries) :=
  hp.durably _ _

theorem Reliable.durably_remove {p : Profile} (hp : p.Reliable) (key : String) :
    Profile.durably (·.remove key) p = (.ok (), p.later (p.host.durable.entries.erase key)) :=
  hp.durably _ _

theorem durably_eq_ok {p p' : Profile} {c : StoreCall} {f : Table → α × Table} {a : α}
    (h : durably (·.perform c f) p = (.ok a, p')) :
    a = (f p.host.durable.entries).1 ∧ p' = p.later (f p.host.durable.entries).2 := by
  simp only [durably] at h
  obtain ⟨hr, rfl⟩ := Prod.mk.inj h
  have hp : p.host.durable.perform c f = (.ok a, (p.host.durable.perform c f).2) :=
    Prod.ext hr rfl
  obtain ⟨ha, hd⟩ := Durable.perform_eq_ok hp
  exact ⟨ha, by rw [hd, later]⟩

theorem Succeeds.of_perform {work : ProfileM α} {c : StoreCall} {f : Table → α × Table}
    {g : Profile → Profile} {s s' : Sight} {a : α}
    (hw : ∀ p, work p = durably (·.perform c f) (g p)) (hg : ∀ p, (g p).host = p.host)
    (h : ∀ p, p.sight = s → (f p.host.durable.entries).1 = a ∧
      ((g p).later (f p.host.durable.entries).2).sight = s') : Succeeds work s a s' where
  effect {p p' b} hs he := by
    obtain ⟨ha, hs'⟩ := h p hs
    rw [hw] at he
    obtain ⟨rfl, rfl⟩ := durably_eq_ok he
    rw [hg]
    exact ⟨ha, hs'⟩
  total {p} hp hs := by
    obtain ⟨ha, hs'⟩ := h p hs
    have hg' : (g p).Reliable := by simpa only [Reliable, hg] using hp
    refine ⟨(g p).later (f p.host.durable.entries).2, ?_, hg'.later _⟩
    rw [hw, hg'.durably, hg, ha]

theorem localGet_succeeds (key : String) (s : Sight) :
    Succeeds (localGet key) s (s.kept key) s := by
  refine .of_perform (g := id) (fun p ↦ rfl) (fun p ↦ rfl) fun p hs ↦ ?_
  subst hs
  exact ⟨rfl, rfl⟩

theorem sight_later_local {p : Profile} {entries : Table} {key : String} {v : Option String}
    (h : ∀ k, entries.get? k = if k = localKey key then v else p.host.durable.entries.get? k) :
    (p.later entries).sight = p.sight.keep key v := by
  simp only [sight_later, h, cookieKey_ne_localKey, if_false, localKey_inj]
  rfl

theorem sight_later_cookie {p : Profile} {entries : Table} {n : String} {v : Option String}
    (h : ∀ k, entries.get? k = if k = cookieKey n then v else p.host.durable.entries.get? k) :
    (p.later entries).sight = p.sight.setCookie n (shown p.now (p.cookies.get? n) v) := by
  simp only [sight_later, h, (cookieKey_ne_localKey _ _).symm, if_false, cookieKey_inj]
  refine congrArg (fun cookies ↦ { p.sight with cookies }) (funext fun m ↦ ?_)
  by_cases hm : m = n
  · simp [hm]
  · simp [hm, sight]

theorem localSet_succeeds (key value : String) (s : Sight) :
    Succeeds (localSet key value) s () (s.keep key (some value)) := by
  refine .of_perform (g := id) (fun p ↦ rfl) (fun p ↦ rfl) fun p hs ↦ ⟨rfl, ?_⟩
  subst hs
  exact sight_later_local fun k ↦ Table.get?_put _ _ _ _

theorem localRemove_succeeds (key : String) (s : Sight) :
    Succeeds (localRemove key) s () (s.keep key none) := by
  refine .of_perform (g := id) (fun p ↦ rfl) (fun p ↦ rfl) fun p hs ↦ ⟨rfl, ?_⟩
  subst hs
  exact sight_later_local fun k ↦ Table.get?_erase _ _ _

theorem sessionSet_succeeds (key value : String) (s : Sight) :
    Succeeds (sessionSet key value) s () { s with session := s.session.put key value } where
  effect hs he := by
    cases he
    subst hs
    exact ⟨rfl, rfl⟩
  total hp _ := ⟨_, rfl, hp⟩

theorem sessionRemove_succeeds (key : String) (s : Sight) :
    Succeeds (sessionRemove key) s () { s with session := s.session.erase key } where
  effect hs he := by
    cases he
    subst hs
    exact ⟨rfl, rfl⟩
  total hp _ := ⟨_, rfl, hp⟩

def withoutCookie (name : String) (p : Profile) : Profile :=
  { p with cookies := p.cookies.erase name }

theorem sight_withoutCookie (name : String) (c : Option Cookie) (p : Profile) :
    (p.withoutCookie name).sight.setCookie name c = p.sight.setCookie name c := by
  refine congrArg (fun cookies ↦ { p.sight with cookies }) (funext fun n ↦ ?_)
  by_cases hn : n = name
  · simp [hn]
  · simp [hn, sight, withoutCookie, Table.get?_erase, now]

theorem removeCookie_succeeds (name : String) (s : Sight) :
    Succeeds (removeCookie name) s () (s.setCookie name none) := by
  refine .of_perform (c := .remove (cookieKey name)) (f := fun t ↦ ((), t.erase (cookieKey name)))
    (g := withoutCookie name) (fun p ↦ rfl) (fun p ↦ rfl) fun p hs ↦ ⟨rfl, ?_⟩
  subst hs
  refine (sight_later_cookie (p := p.withoutCookie name) fun k ↦ Table.get?_erase _ _ _).trans ?_
  rw [sight_withoutCookie]
  simp [withoutCookie, Table.get?_erase, shown, liveCookie]

theorem removeEntry_succeeds (name : String) (s : Sight) :
    Succeeds (durably (·.remove (cookieKey name))) s ()
      (s.setCookie name ((s.cookies name).filter fun c ↦ c.expiry = none)) := by
  refine .of_perform (g := id) (fun p ↦ rfl) (fun p ↦ rfl) fun p hs ↦ ⟨rfl, ?_⟩
  subst hs
  refine (sight_later_cookie fun k ↦ Table.get?_erase _ _ _).trans ?_
  congr 1
  simp only [id, sight, shown]
  cases p.cookies.get? name with
  | some v => rfl
  | none => exact (liveCookie_filter _ _).symm

theorem putCookie_succeeds (name value : String) (s : Sight) :
    Succeeds (modify fun p ↦ { p with cookies := p.cookies.put name value }) s ()
      (s.setCookie name (some ⟨value, none⟩)) where
  effect {p _ _} hs he := by
    cases he
    subst hs
    refine ⟨rfl, congrArg (fun cookies ↦ { p.sight with cookies }) (funext fun n ↦ ?_)⟩
    by_cases hn : n = name
    · simp [hn, Table.get?_put, shown]
    · simp [hn, Table.get?_put, sight, now]
  total hp _ := ⟨_, rfl, hp⟩

/-- A cookie that is set is shown unless it has expired already. -/
theorem setCookie_shows (name value : String) (expiry : Option Instant) (s : Sight)
    (he : ∀ t, expiry = some t → t.inRange = true) :
    Succeeds (setCookie name value expiry) s ()
      (s.setCookie name ((some ⟨value, expiry⟩ : Option Cookie).filter fun c ↦ isLive c.expiry s.now)) := by
  cases expiry with
  | some t =>
    refine .of_perform (c := .set (cookieKey name))
      (f := fun es ↦ ((), es.put (cookieKey name) (StoredCookie.write ⟨value, t⟩)))
      (g := withoutCookie name) (fun p ↦ rfl) (fun p ↦ rfl) fun p hs ↦ ⟨rfl, ?_⟩
    subst hs
    refine (sight_later_cookie (p := p.withoutCookie name) fun k ↦ Table.get?_put _ _ _ _).trans ?_
    have hc := liveCookie_write p.now value (he t rfl)
    rw [sight_withoutCookie]
    simp only [withoutCookie, Table.get?_erase, if_true, shown]
    exact congrArg (p.sight.setCookie name) hc
  | none =>
    rw [← Sight.setCookie_setCookie name ((s.cookies name).filter fun c ↦ c.expiry = none)]
    exact (removeEntry_succeeds name s).bind (f := fun _ ↦ _) (putCookie_succeeds name value _)

theorem setCookie_succeeds (name value : String) (expiry : Option Instant) (s : Sight)
    (he : ∀ t, expiry = some t → t.inRange = true ∧ s.now < t) :
    Succeeds (setCookie name value expiry) s () (s.setCookie name (some ⟨value, expiry⟩)) := by
  have hl : isLive expiry s.now = true := by
    cases expiry with
    | some t => exact decide_eq_true (he t rfl).2
    | none => rfl
  have hs := setCookie_shows name value expiry s fun t ht ↦ (he t ht).1
  rwa [Option.filter_some_pos (by exact hl)] at hs

theorem sight_later_erase {p : Profile} {n : String}
    (h : liveCookie p.now (p.host.durable.entries.get? (cookieKey n)) = none) :
    (p.later (p.host.durable.entries.erase (cookieKey n))).sight = p.sight := by
  have hn : p.sight.cookies n = shown p.now (p.cookies.get? n) none := by
    simp only [sight, shown, h, liveCookie_none]
  rw [sight_later_cookie fun k ↦ Table.get?_erase _ _ _, ← hn, Sight.setCookie_cookies]

theorem durableCookie_sight {p : Profile} (hp : p.Reliable) {n : String}
    (hj : p.cookies.get? n = none) :
    ∃ r p', durableCookie n p = (r, p') ∧
      r.toOption.join = (p.sight.cookies n).map Cookie.value ∧ p'.Reliable ∧ p'.sight = p.sight := by
  have hl := hp.later p.host.durable.entries
  have hs : p.sight.cookies n =
      liveCookie p.now (p.host.durable.entries.get? (cookieKey n)) := by
    simp only [sight, shown, hj]
  rw [durableCookie, bind_of_ok (hp.durably_get _), hs]
  cases he : p.host.durable.entries.get? (cookieKey n) with
  | none => exact ⟨_, _, rfl, rfl, hl, rfl⟩
  | some text =>
    simp only
    cases hr : StoredCookie.read? text with
    | none => exact ⟨_, _, rfl, by simp [liveCookie, hr, Except.toOption], hl, rfl⟩
    | some c =>
      simp only
      rw [get_bind]
      cases hv : isLive (some c.expiresAt) (p.later p.host.durable.entries).now with
      | true =>
        have hv' : isLive (some c.expiresAt) p.now = true := hv
        exact ⟨_, _, rfl, by simp [liveCookie, hr, hv', Except.toOption], hl, rfl⟩
      | false =>
        have hv' : isLive (some c.expiresAt) p.now = false := hv
        have hc : liveCookie p.now (p.host.durable.entries.get? (cookieKey n)) = none := by
          simp [liveCookie, he, hr, hv']
        refine ⟨_, _, bind_of_ok (hl.durably_remove _), ?_, hl.later _, ?_⟩
        · simp [liveCookie, hr, hv', Except.toOption]
        · exact sight_later_erase (p := p.later _) hc

/-- What reading a cookie comes to. An entry that cannot be read is no cookie. -/
theorem cookie_sight {p : Profile} (hp : p.Reliable) (n : String) :
    ∃ r p', cookie n p = (r, p') ∧
      r.toOption.join = (p.sight.cookies n).map Cookie.value ∧ p'.Reliable ∧ p'.sight = p.sight := by
  rw [cookie, get_bind]
  cases hj : p.cookies.get? n with
  | some v => exact ⟨_, _, rfl, by simp [sight, shown, hj, Except.toOption], hp, rfl⟩
  | none => exact durableCookie_sight hp hj

theorem isDead_iff (text : String) (now : Instant) :
    isDead text now = true ↔ liveCookie now (some text) = none := by
  simp only [isDead, liveCookie, Option.bind_some]
  cases StoredCookie.read? text <;> simp

theorem purgeKey_succeeds (n : String) (s : Sight) :
    Succeeds (purgeKey (cookieKey n)) s () s where
  effect {p p' b} hs he := by
    refine ⟨rfl, ?_⟩
    obtain ⟨entry, p₁, h₁, h₂⟩ := bind_eq_ok he
    obtain ⟨rfl, rfl⟩ := durably_eq_ok h₁
    cases hg : p.host.durable.entries.get? (cookieKey n) with
    | none =>
      simp only [hg] at h₂
      cases h₂
      exact hs
    | some text =>
      simp only [hg, get_bind] at h₂
      cases hd : isDead text (p.later p.host.durable.entries).now with
      | false =>
        simp only [hd] at h₂
        cases h₂
        exact hs
      | true =>
        rw [hd, if_pos rfl] at h₂
        obtain ⟨-, rfl⟩ := durably_eq_ok h₂
        refine (sight_later_erase (p := p.later _) ?_).trans hs
        exact hg ▸ (isDead_iff _ _).mp hd
  total {p} hp hs := by
    have hl := hp.later p.host.durable.entries
    rw [purgeKey, bind_of_ok (hp.durably_get _)]
    cases p.host.durable.entries.get? (cookieKey n) with
    | none => exact ⟨_, rfl, hl⟩
    | some text =>
      simp only [get_bind]
      split
      · exact ⟨_, hl.durably_remove _, hl.later _⟩
      · exact ⟨_, rfl, hl⟩

theorem exists_of_keyStarts {e : Engine} {key : String}
    (h : e.keyStarts cookieStart key = true) : ∃ n, key = cookieKey n := by
  have ht : key.toList.take 7 = cookieStart.toList := by
    cases e with
    | database => simpa [Engine.keyStarts, cookieStart] using h
    | memory => exact (List.prefix_iff_eq_take.mp (List.isPrefixOf_iff_prefix.mp h)).symm
    | missing => exact (List.prefix_iff_eq_take.mp (List.isPrefixOf_iff_prefix.mp h)).symm
  refine ⟨String.ofList (key.toList.drop 7), String.toList_injective ?_⟩
  rw [cookieKey, String.toList_append, String.toList_ofList, ← ht, List.take_append_drop]

theorem purgeKeys_succeeds (keys : List String) (hk : ∀ key ∈ keys, ∃ n, key = cookieKey n)
    (s : Sight) : Succeeds (purgeKeys keys) s () s := by
  induction keys with
  | nil => exact .pure () s
  | cons key rest ih =>
    obtain ⟨n, rfl⟩ := hk _ List.mem_cons_self
    exact (purgeKey_succeeds n s).bind (ih fun key h ↦ hk key (List.mem_cons_of_mem _ h))

def cookieKeys (p : Profile) : List String :=
  (p.host.durable.entries.map Prod.fst).filter (p.host.durable.engine.keyStarts cookieStart)

theorem exists_of_mem_cookieKeys {p : Profile} {key : String} (h : key ∈ p.cookieKeys) :
    ∃ n, key = cookieKey n :=
  exists_of_keyStarts (List.mem_filter.mp h).2

/-- Purging shows nothing and hides nothing. -/
theorem purge_succeeds (s : Sight) : Succeeds purge s () s where
  effect {p p' b} hs he := by
    obtain ⟨keys, p₁, h₁, h₂⟩ := bind_eq_ok he
    obtain ⟨rfl, rfl⟩ := durably_eq_ok (f := fun t ↦ (p.cookieKeys, t)) (c := .keys cookieStart) h₁
    exact (purgeKeys_succeeds _ (fun _ ↦ exists_of_mem_cookieKeys) s).effect
      (p := p.later p.host.durable.entries) hs h₂
  total {p} hp hs := by
    have h₁ := hp.durably (.keys cookieStart) fun t ↦ (p.cookieKeys, t)
    obtain ⟨p', h₂, hp'⟩ := (purgeKeys_succeeds _ (fun _ ↦ exists_of_mem_cookieKeys) s).total
      (p := p.later p.host.durable.entries) (hp.later _) hs
    exact ⟨p', (bind_of_ok h₁).trans h₂, hp'⟩

end Profile

end Backoffice
