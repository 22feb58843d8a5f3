import Backoffice.Client.SignIn
import Backoffice.Proofs.Client.Request

namespace Backoffice

open Web (Request Response Body)

structure Standing where
  config : Config
  signOuts : Nat
  status : SessionStatus
  seen : Nat

def Context.standing (c : Context) : Standing := ⟨c.config, c.signOuts, c.status, c.seen⟩

theorem Context.observed_config (x : Context) :
    x.observed.config = x.config ∧ x.observed.hostName = x.hostName := by
  unfold Context.observed
  split <;> exact ⟨rfl, rfl⟩

structure Sight.Sound (s : Sight) : Prop where
  timely : s.Timely
  filled : s.cookies Profile.accessCookie ≠ some ⟨"", none⟩

/-- Whether stored cookies may pass their expiry while the clock goes on. -/
inductive Clock where
  | sparing
  | expiring

/-- What is known of the credential: nothing, that there is none, that whoever is signed in has one,
or that there is one. Where somebody has one, cookies do not expire. -/
inductive Holding where
  | unknown
  | bare
  | backed
  | held

namespace Holding

def clock : Holding → Clock
  | unknown | bare => .expiring
  | backed | held => .sparing

def Admits : Holding → Option Credential → Prop
  | unknown, _ => True
  | bare, c => c = none
  | backed, _ => True
  | held, c => c.isSome

theorem Admits.of_none {h : Holding} (hh : h ≠ held) {c : Option Credential} (hc : c = none) :
    h.Admits c := by
  cases h with
  | unknown => trivial
  | bare => exact hc
  | backed => trivial
  | held => exact absurd rfl hh

theorem Admits.of_ne {h : Holding} (hh : h ≠ held) (hb : h ≠ bare) {c : Option Credential} :
    h.Admits c := by
  cases h with
  | unknown => trivial
  | bare => exact absurd rfl hb
  | backed => trivial
  | held => exact absurd rfl hh

structure Spares (h : Holding) (c c' : Option Credential) : Prop where
  of_none : c = none → c' = none
  eq_of_sparing : h.clock = .sparing → c' = c

theorem Admits.spares {h : Holding} {c c' : Option Credential} (hc : h.Admits c)
    (hs : h.Spares c c') : h.Admits c' := by
  cases h with
  | unknown => trivial
  | bare => exact hs.of_none hc
  | backed => trivial
  | held =>
    rw [hs.eq_of_sparing rfl]
    exact hc

end Holding

structure View.Coherent (h : Holding) (v : View) : Prop where
  sound : v.sight.Sound
  seen_le : v.context.seen ≤ v.context.signOuts
  credential : h.clock = .sparing → v.context.status.isAuthenticated →
    v.context.seen = v.context.signOuts → v.sight.credential.isSome

namespace Holding

def Holds (h : Holding) (v : View) : Prop := v.Coherent h ∧ h.Admits v.sight.credential

def Sends (h : Holding) (r : Request) : Prop := h = bare → r.auth = none

def amid (h : Holding) : Terms View where
  holds := h.Holds
  rely := fun _ _ ↦ True
  sends := h.Sends
  refl := fun _ ↦ trivial
  trans := fun _ _ ↦ trivial

def alone (h : Holding) : Terms View where
  holds := h.Holds
  rely := fun v w ↦ h.Spares v.sight.credential w.sight.credential
  sends := h.Sends
  refl := fun _ ↦ ⟨id, fun _ ↦ rfl⟩
  trans := fun hv hw ↦
    ⟨hw.of_none ∘ hv.of_none, fun hs ↦ (hw.eq_of_sparing hs).trans (hv.eq_of_sparing hs)⟩

end Holding

namespace Sight.Sound

variable {s : Sight}

theorem identified (hs : s.Sound) : s.identified.Sound where
  timely := by simpa only [Sight.Timely, Sight.now_identified] using hs.timely
  filled := by simpa only [Sight.cookies_identified] using hs.filled

theorem writeTokens (hs : s.Sound) {pair : TokenPair} (ha : pair.access ≠ "") (remember : Bool) :
    (s.writeTokens pair remember).Sound where
  timely := by simpa only [Sight.Timely, Sight.now_writeTokens] using hs.timely
  filled := by
    rw [Sight.cookies_writeTokens]
    intro h
    simp only [Option.some.injEq, Cookie.mk.injEq] at h
    exact ha h.1

theorem setCredential (hs : s.Sound) {pair : TokenPair} (ha : pair.access ≠ "") (remember : Bool)
    (payload : Option LoginPayload) : (s.setCredential pair remember payload).Sound where
  timely := by simpa only [Sight.Timely, Sight.now_setCredential] using hs.timely
  filled := by
    cases payload with
    | none => exact (hs.writeTokens ha remember).filled
    | some l => exact (hs.writeTokens ha remember).filled

theorem clearCredential (hs : s.Sound) : s.clearCredential.Sound :=
  ⟨hs.timely, fun h ↦ by cases h⟩

theorem clearRemembered (hs : s.Sound) : s.clearRemembered.Sound := ⟨hs.timely, hs.filled⟩

end Sight.Sound

namespace Profile

variable {p : Profile}

theorem blank_sound (hp : p.sight.Timely) : (sight (.blank p.host)).Sound where
  timely := hp
  filled h := by
    have hl := liveCookie_filter p.now (p.host.durable.entries.get? (cookieKey accessCookie))
    have hc : (sight (.blank p.host)).cookies accessCookie =
        liveCookie p.now (p.host.durable.entries.get? (cookieKey accessCookie)) := rfl
    rw [← hc, h] at hl
    cases hl

/-- A session that begins shows no credential that the one before did not show. -/
theorem credential_blank (hp : p.sight.Sound) (hn : p.sight.credential = none) :
    (sight (.blank p.host)).credential = none := by
  have ht : p.sight.token accessCookie = none := Option.map_eq_none_iff.mp hn
  apply Option.map_eq_none_iff.mpr
  cases hj : p.cookies.get? accessCookie with
  | none =>
    have hc : p.sight.cookies accessCookie = (sight (.blank p.host)).cookies accessCookie := by
      simp only [sight, hj]
      rfl
    rwa [Sight.token, hc] at ht
  | some v =>
    -- A session cookie that hides a durable one holds a token, unless it were empty.
    have hc : p.sight.cookies accessCookie = some ⟨v, none⟩ := by simp only [sight, hj, shown]
    have hv : v = "" := by
      simpa [Sight.token, hc, nonempty?] using ht
    exact absurd (hv ▸ hc) hp.filled

end Profile

namespace View.Coherent

variable {h : Holding} {v : View}

theorem of_clock {h' : Holding} (hv : v.Coherent h)
    (hc : h'.clock = .sparing → h.clock = .sparing) : v.Coherent h' :=
  ⟨hv.sound, hv.seen_le, hv.credential ∘ hc⟩

theorem of_standing (hv : v.Coherent h) {c : Context} (hc : c.standing = v.context.standing) :
    Coherent h ⟨v.sight, c⟩ := by
  obtain ⟨-, ho, hs, hn⟩ : c.config = v.context.config ∧ c.signOuts = v.context.signOuts ∧
      c.status = v.context.status ∧ c.seen = v.context.seen := by
    simpa only [Context.standing, Standing.mk.injEq] using hc
  refine ⟨hv.sound, ?_, ?_⟩
  · simpa only [ho, hn] using hv.seen_le
  · simpa only [ho, hs, hn] using hv.credential

theorem identified (hv : v.Coherent h) : Coherent h ⟨v.sight.identified, v.context⟩ where
  sound := hv.sound.identified
  seen_le := hv.seen_le
  credential := by simpa only [Sight.credential_identified] using hv.credential

theorem writeTokens (hv : v.Coherent h) {pair : TokenPair} (ha : pair.access ≠ "")
    (hr : pair.refresh ≠ some "") (remember : Bool) :
    Coherent h ⟨v.sight.writeTokens pair remember, v.context⟩ ∧
      (v.sight.writeTokens pair remember).credential.isSome := by
  have hc : (v.sight.writeTokens pair remember).credential.isSome := by
    rw [Sight.credential_writeTokens _ ha hr]
    rfl
  exact ⟨⟨hv.sound.writeTokens ha remember, hv.seen_le, fun _ _ _ ↦ hc⟩, hc⟩

theorem signedOut (hv : v.Coherent h) : (Console.signedOut v).Coherent h where
  sound := hv.sound.clearCredential
  seen_le := Nat.le_succ_of_le hv.seen_le
  credential _ _ hn := by
    -- The counter is now beyond what was seen, so the status no longer counts.
    have hle := hv.seen_le
    simp only [Console.signedOut] at hn
    omega

end View.Coherent

namespace Console

variable {h : Holding} {T : Terms View} {v : View}

theorem auth_of_buildRequest {method url : String} {token : Option String} {body : Body}
    {r : Request} (hr : buildRequest method url token body = some r) :
    r.auth = token.map bearer := by
  unfold buildRequest at hr
  split at hr
  · cases hr
  · split at hr
    · cases hr
      rfl
    · cases hr

theorem sendOnce_ensures {method url : String} {token : Option String} {body : Body}
    (hv : T.holds v) (hs : ∀ r : Request, r.auth = token.map bearer → T.sends r) :
    EnsuresOf T (sendOnce method url token body) v fun _ w ↦ T.holds w ∧ T.rely v w := by
  unfold sendOnce
  cases hr : buildRequest method url token body with
  | none => exact .throw ⟨hv, T.refl v⟩
  | some r =>
    simp only
    apply Ensures.sure_bind (R := fun _ w ↦ T.holds w ∧ T.rely v w)
    · exact .request hv (hs r (auth_of_buildRequest hr)) fun _ _ hw hvw ↦ ⟨hw, hvw⟩
    · intro r w hw
      cases r with
      | none => exact .throw hw
      | some answer => exact .pure hw

theorem postPublic_ensures {url : String} {body : Json} (hv : T.holds v)
    (hs : ∀ r : Request, r.auth = none → T.sends r) :
    EnsuresOf T (postPublic url body) v fun _ w ↦ T.holds w ∧ T.rely v w :=
  sendOnce_ensures hv hs

theorem credential_ensures (v : View) :
    Ensures T (onProfile Profile.credential) v fun c w ↦ c = v.sight.credential ∧ w = v :=
  .onProfile (Profile.credential_does v.sight) ⟨rfl, rfl⟩

theorem accessToken_ensures (v : View) :
    Ensures T accessToken v fun t w ↦ t = v.sight.credential.map Credential.access ∧ w = v :=
  Ensures.next (credential_ensures v) (.done ⟨rfl, rfl⟩)

theorem refresh_ensures (hv : h.Holds v) :
    EnsuresOf h.amid refresh v fun r w ↦
      w.Coherent h ∧ ((∃ e, r = .error e) ∨ h.Holds w ∧ h ≠ .bare) := by
  refine Ensures.sure_next (credential_ensures v) ?_
  cases ht : v.sight.credential.bind Credential.refresh with
  | none => exact .throw ⟨hv.1, .inl ⟨_, rfl⟩⟩
  | some token =>
    -- There is a credential to refresh, so it is not known that there is none.
    have hb : h ≠ .bare := by
      intro hq
      subst hq
      rw [show v.sight.credential = none from hv.2] at ht
      cases ht
    have hi : h.Holds ⟨v.sight.identified, v.context⟩ :=
      ⟨hv.1.identified, by simpa only [Sight.credential_identified] using hv.2⟩
    simp only
    refine EnsuresOf.next (.stored (Profile.deviceId_succeeds v.sight).does ⟨rfl, rfl⟩) ?_
    refine Ensures.sure_next (.read ⟨rfl, rfl⟩) ?_
    refine Ensures.sure_bind (sendOnce_ensures hi fun _ hr _ ↦ hr) ?_
    intro r w hq
    obtain ⟨hw, -⟩ := hq
    cases r with
    | error e => exact .throw ⟨hw.1, .inl ⟨_, rfl⟩⟩
    | ok answer =>
      simp only
      cases hp : refreshedTokens answer with
      | error why => exact .throw ⟨hw.1, .inl ⟨_, rfl⟩⟩
      | ok pair =>
        obtain ⟨ha, hr⟩ := refreshedTokens_ne hp
        obtain ⟨hc, hs⟩ := hw.1.writeTokens ha hr w.sight.remembers
        refine EnsuresOf.next (.stored (Profile.replaceTokens_does pair (hw.1.sound.timely _)) ⟨rfl, rfl⟩) ?_
        refine .pure ⟨hc, .inr ⟨⟨hc, ?_⟩, hb⟩⟩
        cases h with
        | unknown => trivial
        | bare => exact absurd rfl hb
        | backed => trivial
        | held => exact hs

theorem discardCredential_ensures (v : View) :
    Ensures T discardCredential v fun a w ↦
      a = () ∧ w = ⟨v.sight.clearCredential, v.context⟩ :=
  Ensures.next (.onProfile (Profile.clearCredential_succeeds v.sight).does ⟨rfl, rfl⟩)
    (.done ⟨rfl, rfl⟩)

def Freshened (h : Holding) (r : Except ClientError String) (w : View) : Prop :=
  h.Holds w ∧ h ≠ .bare ∨ w.Coherent h ∧ (∃ e, r = .error e) ∧ w.sight.credential = none

theorem renew_ensures (hv : h.Holds v) :
    EnsuresOf h.amid freshToken.renew v (Freshened h) := by
  refine Ensures.sure_bind (refresh_ensures hv) ?_
  intro r w hq
  obtain ⟨hw, hr⟩ := hq
  cases r with
  | error e =>
    simp only
    refine Ensures.sure_next (discardCredential_ensures w) ?_
    refine Ensures.sure_next (.modify ⟨rfl, rfl⟩) ?_
    exact .throw (.inr ⟨hw.signedOut, ⟨e, rfl⟩, Sight.credential_clearCredential _⟩)
  | ok t =>
    rcases hr with ⟨e, he⟩ | hr
    · cases he
    · exact .pure (.inl hr)

theorem freshToken_ensures (hv : h.Holds v) (refused : Option String) :
    EnsuresOf h.amid (freshToken refused) v (Freshened h) := by
  refine Ensures.sure_next (accessToken_ensures v) ?_
  cases hc : v.sight.credential with
  | none => exact renew_ensures hv
  | some c =>
    simp only [Option.map_some]
    split
    · refine .pure (.inl ⟨hv, ?_⟩)
      intro hq
      subst hq
      cases hc.symm.trans hv.2
    · exact renew_ensures hv

def Served {α : Type} (h : Holding) (r : Except ClientError α) (w : View) : Prop :=
  h.Holds w ∨ w.Coherent h ∧ (∃ e, r = .error e) ∧ w.sight.credential = none

variable {α β : Type}

theorem Served.of_ok {a : α} {w : View} (hs : Served h (.ok a) w) : h.Holds w := by
  rcases hs with hw | ⟨-, ⟨e, he⟩, -⟩
  · exact hw
  · cases he

theorem Served.of_ne {r : Except ClientError α} {w : View} (hs : Served h r w) (hh : h ≠ .held) :
    h.Holds w := by
  rcases hs with hw | ⟨hw, -, hc⟩
  · exact hw
  · exact ⟨hw, .of_none hh hc⟩

theorem Served.of_error {e : ClientError} {w : View} (hs : Served h (.error e : Except _ α) w) :
    Served h (.error e : Except ClientError β) w :=
  hs.imp_right fun hw ↦ ⟨hw.1, ⟨e, rfl⟩, hw.2.2⟩

theorem request_ensures (hv : h.Holds v) (method url : String) (body : Body) :
    EnsuresOf h.amid (request method url body) v (Served h) := by
  have hs : ∀ r : Request,
      r.auth = (v.sight.credential.map Credential.access).map bearer → h.Sends r := by
    intro r hr hq
    subst hq
    rw [hr, show v.sight.credential = none from hv.2]
    rfl
  refine Ensures.sure_next (accessToken_ensures v) ?_
  apply EnsuresOf.bind (sendOnce_ensures (T := h.amid) hv hs)
  · intro first w hq
    obtain ⟨hw, -⟩ := hq
    split
    · exact .pure (.inl hw)
    apply Ensures.sure_bind (R := fun _ u ↦ h.Holds u)
    · exact .acquire hw fun u hu _ ↦ hu
    intro _ u hu
    apply Ensures.sure_bind (freshToken_ensures hu _)
    intro r x hx
    cases r with
    | error e =>
      refine Ensures.sure_next (.release ⟨rfl, rfl⟩) (.throw ?_)
      exact hx.imp And.left fun hx ↦ ⟨hx.1, ⟨e, rfl⟩, hx.2.2⟩
    | ok t =>
      refine Ensures.sure_next (.release ⟨rfl, rfl⟩) ?_
      rcases hx with ⟨hx, hb⟩ | ⟨-, ⟨e, he⟩, -⟩
      · refine (sendOnce_ensures (T := h.amid) hx fun r _ hr ↦ absurd hr hb).mono ?_
        exact fun _ _ hy ↦ .inl hy.1
      · cases he
  · intro e w hq
    obtain ⟨hw, -⟩ := hq
    exact .inl hw

theorem sendEnvelope_ensures (hv : h.Holds v) (dec : Decoder α) (method url : String)
    (body : Body) : EnsuresOf h.amid (sendEnvelope dec method url body) v (Served h) := by
  apply EnsuresOf.bind (request_ensures hv method url body)
  · intro answer w hw
    cases envelopeOf dec answer with
    | error e => exact .throw (.inl hw.of_ok)
    | ok envelope => exact .pure (.inl hw.of_ok)
  · exact fun _ _ hw ↦ hw.of_error

theorem fetchCurrentUser_ensures (hv : h.Holds v) :
    EnsuresOf h.amid fetchCurrentUser v (Served h) := by
  refine Ensures.sure_next (.read ⟨rfl, rfl⟩) ?_
  apply EnsuresOf.bind (sendEnvelope_ensures hv AdminUser.decode "GET" _ .empty)
  · intro envelope w hw
    split
    · exact .throw (.inl hw.of_ok)
    · exact .throw (.inl hw.of_ok)
    · exact .pure (.inl hw.of_ok)
  · exact fun _ _ hw ↦ hw.of_error

end Console

end Backoffice
