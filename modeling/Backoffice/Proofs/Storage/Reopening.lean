import Backoffice.Proofs.Storage.Along
import Backoffice.Proofs.Storage.Credential

namespace Backoffice

open Time (Instant)

namespace Sight

/-- At a later time, without the cookies that have expired by then. -/
def waited (t : Instant) (s : Sight) : Sight :=
  { s with now := t, cookies := fun name ↦ (s.cookies name).filter fun c ↦ isLive c.expiry t }

/-- After the session, with the cookies that are kept for a time. -/
def reopened (s : Sight) : Sight :=
  { s with cookies := fun name ↦ (s.cookies name).filter fun c ↦ c.expiry.isSome, session := [] }

end Sight

theorem isLive_mono {expiry : Option Instant} {now t : Instant} (h : now.nanos ≤ t.nanos)
    (hl : isLive expiry t = true) : isLive expiry now = true := by
  cases expiry with
  | none => rfl
  | some e => exact decide_eq_true (Int.lt_of_le_of_lt h (of_decide_eq_true hl : t.nanos < e.nanos))

namespace Profile

def waited (t : Instant) (p : Profile) : Profile := { p with host := { p.host with now := t } }

theorem shown_waited {now t : Instant} (h : now.nanos ≤ t.nanos) (jar entry : Option String) :
    shown t jar entry = (shown now jar entry).filter fun c ↦ isLive c.expiry t := by
  cases jar with
  | some v => rfl
  | none =>
    simp only [shown, liveCookie]
    cases entry.bind StoredCookie.read? with
    | none => rfl
    | some c =>
      simp only [isLive, decide_eq_true_eq]
      by_cases hl : t < c.expiresAt
      · have hn : now < c.expiresAt := Int.lt_of_le_of_lt h hl
        simp [hl, hn, Option.filter]
      · by_cases hn : now < c.expiresAt <;> simp [hl, hn, Option.filter]

theorem sight_waited {p : Profile} {t : Instant} (h : p.now.nanos ≤ t.nanos) :
    (p.waited t).sight = p.sight.waited t :=
  congrArg (fun cookies ↦ { p.sight with now := t, cookies }) (funext fun _ ↦ shown_waited h _ _)

variable {α β : Type}

structure Within (p' p : Profile) : Prop where
  entries : ∀ key text, p'.host.durable.entries.get? key = some text →
    p.host.durable.entries.get? key = some text
  cookies : ∀ name v, p'.cookies.get? name = some v → p.cookies.get? name = some v

instance : IsPreorder Profile Within where
  refl _ := ⟨fun _ _ h ↦ h, fun _ _ h ↦ h⟩
  trans _ _ _ h h' := ⟨fun key text hg ↦ h'.entries _ _ (h.entries key text hg),
    fun name v hg ↦ h'.cookies _ _ (h.cookies name v hg)⟩

def Sheds (act : StateM Profile α) : Prop := ∀ p, (act p).2.Within p

theorem entries_perform (d : Durable) (c : StoreCall) (f : Table → α × Table) :
    (d.perform c f).2.entries = d.entries ∨ (d.perform c f).2.entries = (f d.entries).2 := by
  unfold Durable.perform
  split
  · exact .inl rfl
  · split
    · exact .inl rfl
    · exact .inr rfl

namespace Sheds

theorem andThen {act : ProfileM α} {f : α → ProfileM β} (h : Sheds act.run)
    (hf : ∀ a, Sheds (f a).run) : Sheds (act >>= f).run := Along.andThen h hf

theorem durably {c : StoreCall} {f : Table → α × Table}
    (hf : ∀ t key text, (f t).2.get? key = some text → t.get? key = some text) :
    Sheds (durably (·.perform c f)).run := by
  refine fun p ↦ ⟨fun key text ht ↦ ?_, fun _ _ h ↦ h⟩
  change (p.host.durable.perform c f).2.entries.get? key = some text at ht
  rcases entries_perform p.host.durable c f with he | he
  · rwa [he] at ht
  · exact hf _ _ _ (he ▸ ht)

end Sheds

theorem get_sheds (key : String) : Sheds (durably (·.get key)).run := .durably fun _ _ _ h ↦ h

theorem keys_sheds (start : String) : Sheds (durably (·.keys start)).run := fun p ↦
  Sheds.durably (c := .keys start)
    (f := fun t ↦ ((t.map Prod.fst).filter (p.host.durable.engine.keyStarts start), t))
    (fun _ _ _ h ↦ h) p

theorem get?_of_erase {t : Table} {key other text : String}
    (h : (t.erase key).get? other = some text) : t.get? other = some text := by
  rw [Table.get?_erase] at h
  split at h
  · cases h
  · exact h

theorem remove_sheds (key : String) : Sheds (durably (·.remove key)).run :=
  .durably fun _ _ _ h ↦ get?_of_erase h

theorem withoutCookie_within (name : String) (p : Profile) : (p.withoutCookie name).Within p :=
  ⟨fun _ _ h ↦ h, fun _ _ h ↦ get?_of_erase h⟩

theorem within_kept : KeptByRemovals Within where
  get := get_sheds
  remove := remove_sheds
  dropSessionCookie name p := ⟨fun _ _ h ↦ h, (withoutCookie_within name p).cookies⟩

theorem removeCookie_sheds (name : String) : Sheds (removeCookie name).run := within_kept.removeCookie name

theorem cookie_sheds (name : String) : Sheds (cookie name).run := within_kept.cookie name

theorem purgeKeys_sheds (keys : List String) : Sheds (purgeKeys keys).run := by
  induction keys with
  | nil => exact Along.pure (R := Within) _
  | cons key rest ih =>
    refine Sheds.andThen ((get_sheds key).andThen fun entry ↦ ?_) fun _ ↦ ih
    cases entry with
    | none => exact Along.pure (R := Within) _
    | some text =>
      refine Along.get (R := Within) fun p ↦ ?_
      split
      · exact remove_sheds _
      · exact .pure _

theorem purge_sheds : Sheds purge.run := (keys_sheds _).andThen fun keys ↦ purgeKeys_sheds keys

/-- No cookie is kept for a time under a name that the session has a cookie for. -/
def Apart (p : Profile) : Prop :=
  ∀ name v, p.cookies.get? name = some v → p.host.durable.entries.get? (cookieKey name) = none

theorem apart_blank (h : Host) : (blank h).Apart := nofun

def StaysApart (act : StateM Profile α) : Prop := ∀ p, p.Apart → (act p).2.Apart

theorem Within.apart {p p' : Profile} (h : p'.Within p) (hp : p.Apart) : p'.Apart := by
  intro n v hn
  have hold := hp n v (h.cookies n v hn)
  rw [Option.eq_none_iff_forall_ne_some]
  intro text ht
  rw [h.entries _ _ ht] at hold
  cases hold

theorem Sheds.staysApart {act : StateM Profile α} (h : Sheds act) : StaysApart act :=
  fun p ↦ (h p).apart

theorem localSet_staysApart (key value : String) : StaysApart (localSet key value).run := by
  intro p hp n v hn
  have hold : p.host.durable.entries.get? (cookieKey n) = none := hp n v hn
  change (p.host.durable.set (localKey key) value).2.entries.get? (cookieKey n) = none
  rcases entries_perform p.host.durable (.set (localKey key))
    fun t ↦ ((), t.put (localKey key) value) with he | he
  · rwa [Durable.set, he]
  · rwa [Durable.set, he, Table.get?_put, if_neg (cookieKey_ne_localKey n key)]

theorem sessionSet_staysApart (key value : String) : StaysApart (sessionSet key value).run :=
  fun _ hp ↦ hp

theorem setCookie_staysApart (name value : String) (expiry : Option Instant) :
    StaysApart (setCookie name value expiry).run := by
  intro p hp
  cases expiry with
  | some t =>
    intro n v hn
    have hn' : (p.withoutCookie name).cookies.get? n = some v := hn
    have hne : n ≠ name := by
      intro he
      simp [withoutCookie, Table.get?_erase, he] at hn'
    have hold := hp n v ((withoutCookie_within name p).cookies n v hn')
    let put : Table → Unit × Table :=
      fun t' ↦ ((), t'.put (cookieKey name) (StoredCookie.write ⟨value, t⟩))
    change (p.host.durable.perform (.set (cookieKey name)) put).2.entries.get? (cookieKey n) = none
    rcases entries_perform p.host.durable (.set (cookieKey name)) put with he | he
    · rwa [he]
    · rw [he, Table.get?_put, if_neg (fun h ↦ hne (cookieKey_inj.mp h))]
      exact hold
  | none =>
    refine bind_keeps ((remove_sheds (cookieKey name)).staysApart p hp) fun _ p' he n v hn ↦ ?_
    obtain ⟨-, rfl⟩ := durably_eq_ok he
    have hn : (p.cookies.put name value).get? n = some v := hn
    change (p.host.durable.entries.erase (cookieKey name)).get? (cookieKey n) = none
    rw [Table.get?_erase]
    split
    · rfl
    · next hne =>
      rw [Table.get?_put, if_neg fun h ↦ hne (congrArg cookieKey h)] at hn
      exact hp n v hn

theorem apart_kept : KeptByWrites (Keeping Apart) where
  get key := (get_sheds key).staysApart
  remove key := (remove_sheds key).staysApart
  dropSessionCookie name p := (within_kept.dropSessionCookie name p).apart
  setCookie := setCookie_staysApart
  localSet := localSet_staysApart
  issueDeviceId _ hp := hp

theorem keepLogin_staysApart (remember : Bool) (l : LoginPayload) : StaysApart (keepLogin remember l).run := by
  refine Along.andThen (R := Keeping Apart) (sessionSet_staysApart _ _) fun _ ↦ ?_
  cases remember with
  | true => exact localSet_staysApart _ _
  | false => exact (remove_sheds _).staysApart

theorem credential_staysApart : StaysApart credential := apart_kept.credential

theorem setCredential_staysApart (tokens : TokenPair) (remember : Bool)
    (payload : Option LoginPayload) : StaysApart (setCredential tokens remember payload).run :=
  apart_kept.setCredential tokens remember payload fun l _ ↦ keepLogin_staysApart remember l

theorem replaceTokens_staysApart (tokens : TokenPair) : StaysApart (replaceTokens tokens).run :=
  apart_kept.replaceTokens tokens

theorem clearCredential_staysApart : StaysApart clearCredential.run := apart_kept.clearCredential

theorem deviceId_staysApart : StaysApart deviceId.run := apart_kept.deviceId

theorem shown_none {now : Instant} {jar entry : Option String} (h : ∀ v, jar = some v → entry = none) :
    shown now none entry = (shown now jar entry).filter fun c ↦ c.expiry.isSome := by
  cases jar with
  | some v =>
    rw [h v rfl]
    rfl
  | none =>
    simp only [shown, liveCookie]
    cases entry.bind StoredCookie.read? with
    | none => rfl
    | some c =>
      simp only
      split <;> rfl

theorem sight_blank {p : Profile} (hp : p.Apart) : (blank p.host).sight = p.sight.reopened :=
  congrArg (fun cookies ↦ { p.sight with cookies, session := [] })
    (funext fun name ↦ shown_none fun v hj ↦ hp name v hj)

/-- Opening a profile again leaves what was kept for a time. -/
theorem opened_sight {p : Profile} (hr : p.Reliable) (hp : p.Apart) :
    ∃ p', opened p.host = (.ok (), p') ∧ p'.Reliable ∧ p'.Apart ∧ p'.sight = p.sight.reopened := by
  have hb : (blank p.host).Reliable := hr
  obtain ⟨p', he, hr', hs⟩ := (purge_succeeds _).does (blank p.host) hb rfl
  have ha := purge_sheds.staysApart _ (apart_blank p.host)
  rw [he] at ha
  exact ⟨p', he, hr', ha, hs.trans (sight_blank hp)⟩

theorem now_opened {p : Profile} (hr : p.Reliable) (hp : p.Apart) : (opened p.host).2.now = p.now := by
  obtain ⟨p', he, -, -, hs⟩ := opened_sight hr hp
  rw [he]
  exact congrArg Sight.now hs

end Profile

end Backoffice
