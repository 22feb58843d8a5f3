import Backoffice.Proofs.Storage.Sight
import Backoffice.Storage.Credential

namespace Backoffice

open Time (Instant)

namespace Time

theorem Instant.lt_addDays {days : Int} (hd : 0 < days) (t : Instant) : t < t.addDays days := by
  have hn : 0 < days * dayNanos := Int.mul_pos hd (by decide)
  exact Int.lt_add_of_pos_right t.nanos hn

end Time

namespace ExpiryPolicy

theorem expiresAt_ofRemember {remember : Bool} {now : Instant}
    (h : ((ofRemember remember).expiresAt? now).isSome) :
    ∀ t, (ofRemember remember).expiresAt now = some t → t.inRange = true ∧ now < t := by
  intro t ht
  cases remember with
  | false => simp [ofRemember, expiresAt] at ht
  | true =>
    simp only [ofRemember, expiresAt, expiresAt?, if_true, Option.some.injEq, Option.isSome_map,
      Instant.addDays?] at h ht
    subst ht
    refine ⟨?_, Instant.lt_addDays (by decide) now⟩
    split at h
    · next hr => exact hr.2
    · cases h

end ExpiryPolicy

namespace Sight

open Profile

def remembers (s : Sight) : Bool := s.kept rememberKey == some "true"

def token (name : String) (s : Sight) : Option String :=
  nonempty? ((s.cookies name).map Cookie.value)

def credential (s : Sight) : Option Credential :=
  (s.token accessCookie).map fun access ↦
    ⟨access, s.token refreshCookie, .ofRemember s.remembers⟩

/-- Whether what is kept for as long as a user can choose expires at a time that can be kept. -/
def Timely (s : Sight) : Prop :=
  ∀ remember, ((ExpiryPolicy.ofRemember remember).expiresAt? s.now).isSome

def writeTokens (tokens : TokenPair) (remember : Bool) (s : Sight) : Sight :=
  let expiry := (ExpiryPolicy.ofRemember remember).expiresAt s.now
  let s := s.setCookie accessCookie (some ⟨tokens.access, expiry⟩)
  match tokens.refresh with
  | some r => s.setCookie refreshCookie (some ⟨r, expiry⟩)
  | none => s

def keepLogin (remember : Bool) (payload : LoginPayload) (s : Sight) : Sight :=
  { s with session := s.session.put loginKey payload.toStored.write }.keep emailKey
    (if remember then some payload.email else none)

def setCredential (tokens : TokenPair) (remember : Bool) (payload : Option LoginPayload)
    (s : Sight) : Sight :=
  let flag := if remember then "true" else "false"
  let s := (s.writeTokens tokens remember).keep rememberKey (some flag)
  match payload with
  | some l => s.keepLogin remember l
  | none => s

def clearCredential (s : Sight) : Sight :=
  ((s.setCookie accessCookie none).setCookie refreshCookie none).keep rememberKey none

def clearRemembered (s : Sight) : Sight :=
  let s := (s.keep rememberKey none).keep emailKey none
  { s with session := s.session.erase loginKey }

def keptDevice (s : Sight) : Option DeviceId :=
  ((s.kept deviceKey).map DeviceId.parse).bind Except.toOption

/-- The device identifier of the installation: the one that is kept, else a new one. -/
def deviceId (s : Sight) : DeviceId := s.keptDevice.getD (s.deviceIds s.issued)

def identified (s : Sight) : Sight :=
  match s.keptDevice with
  | some _ => s
  | none => { s with issued := s.issued + 1 }.keep deviceKey (some s.deviceId.write)

end Sight

namespace Profile

variable {α β : Type} {s s' : Sight} {a : α}

theorem Succeeds.of_now {f : Instant → ProfileM α} (h : Succeeds (f s.now) s a s') :
    Succeeds (get >>= fun p ↦ f p.now) s a s' where
  effect hs he := by
    subst hs
    exact h.effect rfl he
  total hp hs := by
    subst hs
    exact h.total hp rfl

theorem Succeeds.orElse {act : ProfileM α} (d : α) (h : Succeeds act s a s') :
    Does (orElse d act) s a s' :=
  h.does.bind (.pure a s')

theorem cookie_does (n : String) (s : Sight) :
    Does (orElse none (cookie n)) s ((s.cookies n).map Cookie.value) s := by
  intro p hp hs
  obtain ⟨r, p', he, hr, hp', hs'⟩ := cookie_sight hp n
  refine ⟨p', ?_, hp', hs'.trans hs⟩
  subst hs
  rw [← hr]
  simp only [orElse, ExceptT.run, Bind.bind, StateT.bind, he]
  cases r with
  | error e => rfl
  | ok v => cases v <;> rfl

theorem rememberMe_does (s : Sight) : Does rememberMe s s.remembers s :=
  ((localGet_succeeds rememberKey s).bind (.pure (s.kept rememberKey == some "true") s)).orElse false

theorem credential_does (s : Sight) : Does credential s s.credential s := by
  refine (cookie_does accessCookie s).bind ?_
  cases h : nonempty? ((s.cookies accessCookie).map Cookie.value) with
  | none =>
    have hc : s.credential = none := by simp [Sight.credential, Sight.token, h]
    rw [hc]
    exact .pure none s
  | some access =>
    have hc : s.credential = some ⟨access, s.token refreshCookie, .ofRemember s.remembers⟩ := by
      simp [Sight.credential, Sight.token, h]
    rw [hc]
    exact (cookie_does refreshCookie s).bind ((rememberMe_does s).bind (.pure _ s))

theorem writeTokens_succeeds (tokens : TokenPair) {remember : Bool} {s : Sight}
    (h : ((ExpiryPolicy.ofRemember remember).expiresAt? s.now).isSome) :
    Succeeds (writeTokens tokens (.ofRemember remember)) s () (s.writeTokens tokens remember) := by
  have he := ExpiryPolicy.expiresAt_ofRemember h
  refine .of_now (f := fun now ↦ do
    setCookie accessCookie tokens.access ((ExpiryPolicy.ofRemember remember).expiresAt now)
    match tokens.refresh with
    | some r => setCookie refreshCookie r ((ExpiryPolicy.ofRemember remember).expiresAt now)
    | none => return ()) ?_
  refine (setCookie_succeeds accessCookie tokens.access _ s he).bind ?_
  simp only [Sight.writeTokens]
  cases tokens.refresh with
  | none => exact .pure () _
  | some r => exact setCookie_succeeds refreshCookie r _ _ he

theorem keepLogin_succeeds (remember : Bool) (payload : LoginPayload) (s : Sight) :
    Succeeds (keepLogin remember payload) s () (s.keepLogin remember payload) := by
  refine (sessionSet_succeeds loginKey payload.toStored.write s).bind ?_
  cases remember with
  | true => exact localSet_succeeds emailKey payload.email _
  | false => exact localRemove_succeeds emailKey _

theorem setCredential_succeeds (tokens : TokenPair) {remember : Bool}
    (payload : Option LoginPayload) {s : Sight}
    (h : ((ExpiryPolicy.ofRemember remember).expiresAt? s.now).isSome) :
    Succeeds (setCredential tokens remember payload) s ()
      (s.setCredential tokens remember payload) := by
  refine (writeTokens_succeeds tokens h).bind ((localSet_succeeds rememberKey _ _).bind ?_)
  simp only [Sight.setCredential]
  cases payload with
  | none => exact .pure () _
  | some l => exact keepLogin_succeeds remember l _

theorem clearCredential_succeeds (s : Sight) :
    Succeeds clearCredential s () s.clearCredential :=
  (removeCookie_succeeds accessCookie s).bind
    ((removeCookie_succeeds refreshCookie _).bind (localRemove_succeeds rememberKey _))

theorem clearRemembered_succeeds (s : Sight) :
    Succeeds clearRemembered s () s.clearRemembered :=
  (localRemove_succeeds rememberKey s).bind
    ((localRemove_succeeds emailKey _).bind (sessionRemove_succeeds loginKey _))

theorem issueDeviceId_succeeds (s : Sight) :
    Succeeds issueDeviceId s (s.deviceIds s.issued) { s with issued := s.issued + 1 } where
  effect hs he := by
    cases he
    subst hs
    exact ⟨rfl, rfl⟩
  total hp hs := by
    subst hs
    exact ⟨_, rfl, hp⟩

theorem deviceId_succeeds (s : Sight) : Succeeds deviceId s s.deviceId s.identified := by
  refine (localGet_succeeds deviceKey s).bind ?_
  simp only [Sight.deviceId, Sight.identified, Sight.keptDevice]
  cases h : ((s.kept deviceKey).map DeviceId.parse).bind Except.toOption with
  | some id => exact .pure id s
  | none =>
    refine (issueDeviceId_succeeds s).bind ?_
    exact (localSet_succeeds deviceKey _ _).bind (.pure (s.deviceIds s.issued) _)

theorem replaceTokens_does (tokens : TokenPair) {s : Sight}
    (h : ((ExpiryPolicy.ofRemember s.remembers).expiresAt? s.now).isSome) :
    Does (replaceTokens tokens).run s (.ok ()) (s.writeTokens tokens s.remembers) :=
  (rememberMe_does s).bind (f := fun remember ↦ (writeTokens tokens (.ofRemember remember)).run)
    (writeTokens_succeeds tokens h).does

end Profile

namespace Sight

open Profile

variable (s : Sight)

theorem token_setCookie_self (name : String) (c : Option Cookie) :
    (s.setCookie name c).token name = nonempty? (c.map Cookie.value) := by
  simp [token, setCookie]

theorem token_setCookie_of_ne {name other : String} (h : other ≠ name) (c : Option Cookie) :
    (s.setCookie name c).token other = s.token other := by
  simp [token, setCookie, h]

theorem nonempty?_of_ne {v : String} (h : v ≠ "") : nonempty? (some v) = some v := by
  simp [nonempty?, h]

theorem refreshCookie_ne_accessCookie : refreshCookie ≠ accessCookie := by decide

/-- The tokens after some were written: a pair without a refresh token leaves the one there was. -/
theorem token_writeTokens {tokens : TokenPair} (ha : tokens.access ≠ "")
    (hr : tokens.refresh ≠ some "") (remember : Bool) :
    (s.writeTokens tokens remember).token accessCookie = some tokens.access ∧
      (s.writeTokens tokens remember).token refreshCookie =
        tokens.refresh.or (s.token refreshCookie) := by
  simp only [writeTokens]
  cases h : tokens.refresh with
  | none =>
    rw [token_setCookie_self, token_setCookie_of_ne s refreshCookie_ne_accessCookie]
    exact ⟨nonempty?_of_ne ha, rfl⟩
  | some r =>
    have hr' : r ≠ "" := fun he ↦ hr (by rw [h, he])
    rw [token_setCookie_of_ne _ refreshCookie_ne_accessCookie.symm, token_setCookie_self,
      token_setCookie_self]
    exact ⟨nonempty?_of_ne ha, nonempty?_of_ne hr'⟩

theorem remembers_writeTokens (tokens : TokenPair) (remember : Bool) :
    (s.writeTokens tokens remember).remembers = s.remembers := by
  simp only [writeTokens]
  cases tokens.refresh <;> rfl

theorem credential_writeTokens {tokens : TokenPair} (ha : tokens.access ≠ "")
    (hr : tokens.refresh ≠ some "") (remember : Bool) :
    (s.writeTokens tokens remember).credential =
      some ⟨tokens.access, tokens.refresh.or (s.token refreshCookie), .ofRemember s.remembers⟩ := by
  obtain ⟨ha', hr'⟩ := s.token_writeTokens ha hr remember
  rw [credential, ha', hr', remembers_writeTokens]
  rfl

theorem credential_keep {key : String} (h : rememberKey ≠ key) (v : Option String) :
    (s.keep key v).credential = s.credential := by
  simp only [credential, remembers, keep, h, if_false]
  rfl

theorem credential_keep_rememberKey (v : Option String) :
    (s.keep rememberKey v).credential =
      s.credential.map fun c ↦ { c with expiry := .ofRemember (v == some "true") } := by
  simp only [credential, remembers, keep, if_true, Option.map_map]
  rfl

theorem credential_keepLogin (remember : Bool) (payload : LoginPayload) :
    (s.keepLogin remember payload).credential = s.credential :=
  credential_keep _ (by decide) _

theorem credential_setCredential {tokens : TokenPair} (ha : tokens.access ≠ "")
    (hr : tokens.refresh ≠ some "") (remember : Bool) (payload : Option LoginPayload) :
    (s.setCredential tokens remember payload).credential =
      some ⟨tokens.access, tokens.refresh.or (s.token refreshCookie), .ofRemember remember⟩ := by
  have hf : ((some (if remember then "true" else "false") : Option String) == some "true") =
      remember := by
    cases remember <;> rfl
  have hc : ((s.writeTokens tokens remember).keep rememberKey
      (some (if remember then "true" else "false"))).credential =
        some ⟨tokens.access, tokens.refresh.or (s.token refreshCookie), .ofRemember remember⟩ := by
    rw [credential_keep_rememberKey, credential_writeTokens s ha hr, Option.map_some, hf]
  cases payload with
  | none => exact hc
  | some l => exact (credential_keepLogin _ remember l).trans hc

theorem credential_clearCredential : s.clearCredential.credential = none := by
  have ha : s.clearCredential.token accessCookie = none := rfl
  simp only [credential, ha, Option.map_none]

theorem credential_eq_some {s : Sight} {c : Credential} (h : s.credential = some c) :
    s.token accessCookie = some c.access ∧ s.token refreshCookie = c.refresh ∧
      ExpiryPolicy.ofRemember s.remembers = c.expiry := by
  obtain ⟨access, ha, rfl⟩ := Option.map_eq_some_iff.mp h
  exact ⟨ha, rfl, rfl⟩

/-- New tokens take the place of the old ones, of which a refresh token stays if no other is given. -/
theorem credential_writeTokens_of_some {tokens : TokenPair} {c : Credential} (ha : tokens.access ≠ "")
    (hr : tokens.refresh ≠ some "") (hc : s.credential = some c) (remember : Bool) :
    (s.writeTokens tokens remember).credential =
      some ⟨tokens.access, tokens.refresh.or c.refresh, c.expiry⟩ := by
  obtain ⟨-, ht, he⟩ := credential_eq_some hc
  rw [credential_writeTokens _ ha hr, ht, he]

theorem now_identified : s.identified.now = s.now := by
  unfold identified
  split <;> rfl

theorem remembers_identified : s.identified.remembers = s.remembers := by
  unfold identified
  split
  · rfl
  · simp only [remembers, keep, show rememberKey ≠ deviceKey by decide, if_false]

theorem credential_identified : s.identified.credential = s.credential := by
  unfold identified
  split
  · rfl
  · exact credential_keep _ (by decide) _

theorem cookies_writeTokens (tokens : TokenPair) (remember : Bool) :
    (s.writeTokens tokens remember).cookies accessCookie =
      some ⟨tokens.access, (ExpiryPolicy.ofRemember remember).expiresAt s.now⟩ := by
  unfold writeTokens
  cases tokens.refresh with
  | none => simp [setCookie]
  | some r => simp [setCookie, refreshCookie_ne_accessCookie.symm]

theorem now_writeTokens (tokens : TokenPair) (remember : Bool) :
    (s.writeTokens tokens remember).now = s.now := by
  unfold writeTokens
  cases tokens.refresh <;> rfl

theorem now_setCredential (tokens : TokenPair) (remember : Bool)
    (payload : Option LoginPayload) : (s.setCredential tokens remember payload).now = s.now := by
  cases payload with
  | none => exact s.now_writeTokens tokens remember
  | some l => exact s.now_writeTokens tokens remember

theorem cookies_identified : s.identified.cookies = s.cookies := by
  unfold identified
  split <;> rfl

end Sight

namespace Profile

theorem credential_eq {p : Profile} (hp : p.Reliable) :
    (credential p).1 = p.sight.credential := by
  obtain ⟨p', he, -, -⟩ := credential_does p.sight p hp rfl
  rw [he]

/-- Storing a pair of tokens does not fail where the store refuses nothing. Where it did not fail,
the pair is read back, with the refresh token of an earlier login in place of one that the pair does
not have. So what is read back is the pair itself just if it has a refresh token or no earlier one
was still there. -/
theorem credential_of_setCredential (p : Profile) (tokens : TokenPair) (remember : Bool)
    (payload : Option LoginPayload) (ha : tokens.access ≠ "") (hr : tokens.refresh ≠ some "")
    (ht : ((ExpiryPolicy.ofRemember remember).expiresAt? p.now).isSome) :
    (p.Reliable → ∃ p', setCredential tokens remember payload p = (.ok (), p') ∧ p'.Reliable) ∧
    ∀ p', setCredential tokens remember payload p = (.ok (), p') → p'.Reliable →
      (credential p').1 = some
        ⟨tokens.access, tokens.refresh.or (p.sight.token refreshCookie), .ofRemember remember⟩ ∧
      ((credential p').1 = some ⟨tokens.access, tokens.refresh, .ofRemember remember⟩ ↔
        tokens.refresh.isSome ∨ p.sight.token refreshCookie = none) := by
  have hs := setCredential_succeeds tokens payload (s := p.sight) ht
  refine ⟨fun hp ↦ hs.total hp rfl, fun p' he hp' ↦ ?_⟩
  have hc : (credential p').1 = some
      ⟨tokens.access, tokens.refresh.or (p.sight.token refreshCookie), .ofRemember remember⟩ := by
    rw [credential_eq hp', (hs.effect rfl he).2,
      Sight.credential_setCredential _ ha hr remember payload]
  refine ⟨hc, ?_⟩
  rw [hc]
  cases tokens.refresh <;> simp

/-- After a login whose answer had a refresh token, one whose answer has none keeps it. -/
theorem credential_of_second_login :
    let host : Host := ⟨.empty .memory, ⟨0⟩, fun _ ↦ ⟨List.replicate 32 0, rfl⟩, 0⟩
    let p := (setCredential ⟨"a1", some "r1"⟩ false none (blank host)).2
    let p' := (setCredential ⟨"a2", none⟩ false none p).2
    (credential p').1 = some ⟨"a2", some "r1", .session⟩ ∧
      (credential p').1 ≠ some ⟨"a2", none, .session⟩ := by
  intro host p p'
  have hp' : p'.Reliable := ⟨by decide, fun _ _ _ ↦ rfl⟩
  obtain ⟨hc, hi⟩ := (credential_of_setCredential p ⟨"a2", none⟩ false none (by decide)
    (by decide) rfl).2 p' rfl hp'
  have ht : p.sight.token refreshCookie = some "r1" := by decide
  rw [ht] at hc hi
  exact ⟨hc, fun h ↦ absurd (hi.mp h) (by decide)⟩

end Profile

end Backoffice
