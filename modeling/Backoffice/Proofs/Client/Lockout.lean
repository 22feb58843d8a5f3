import Backoffice.Proofs.Client.Chores
import Backoffice.Proofs.Client.Renewal
import Backoffice.Proofs.Client.Session
import Backoffice.Proofs.Task.Pact

namespace Backoffice

open Web (Request Response Body Outcome)

variable {α β : Type}

def Console.sworn (P : Pact Gate View) : Pact Gate Console where
  gate := P.gate
  holds := fun c ↦ c.Reliable ∧ P.holds c.view
  sends := fun c ↦ P.sends c.view
  count := fun c ↦ P.count c.view
  moot := fun c ↦ P.moot c.view
  alone := P.alone

namespace Console

/-- A task that goes on from the view `v`, with the lock or without it, keeps the pact and ends in `Q`. -/
structure Keeps (P : Pact Gate View) (t : ConsoleM α) (mine : Bool) (v : View)
    (Q : Bool → α → View → Prop) : Prop where
  honours : ∀ c : Console, c.Reliable → c.view = v →
    t.Honours (sworn P) (fun m a c ↦ c.Reliable ∧ Q m a c.view) mine c

def Counts (P : Pact Gate View) (mine : Bool) (v w : View) : Prop :=
  P.count w = P.count v ∨ mine = true ∧ P.count v ≤ P.count w

namespace Keeps

variable {P : Pact Gate View} {mine : Bool} {v v' : View} {a : α} {Q R : Bool → α → View → Prop}
  {Q' : Bool → β → View → Prop}

theorem done (h : Q mine a v) : Keeps P (.done a) mine v Q where
  honours c hc hv := by
    subst hv
    exact ⟨hc, h⟩

theorem bind {t : ConsoleM α} {f : α → ConsoleM β} (h : Keeps P t mine v R)
    (hf : ∀ m a v, R m a v → Keeps P (f a) m v Q') : Keeps P (t.bind f) mine v Q' where
  honours c hc hv := (h.honours c hc hv).bind fun m a c hR ↦ (hf m a c.view hR.2).honours c hR.1 rfl

theorem mono {t : ConsoleM α} (h : Keeps P t mine v R) (hq : ∀ m a v, R m a v → Q m a v) :
    Keeps P t mine v Q where
  honours c hc hv := (h.honours c hc hv).mono fun m a c hR ↦ ⟨hR.1, hq m a c.view hR.2⟩

theorem onProfile {act : StateM Profile α} {s : Sight} (h : Profile.Does act v.sight a s)
    (hc : Counts P mine v ⟨s, v.context⟩) (hq : Q mine a ⟨s, v.context⟩) :
    Keeps P (onProfile act) mine v Q where
  honours c hc' hv := by
    subst hv
    obtain ⟨p, he, hp, hs⟩ := h c.profile hc' rfl
    subst hs
    change Counts P mine c.view (Console.view ⟨(act c.profile).2, c.context⟩) ∧ _ ∧ _
    simp only [he]
    exact ⟨hc, hp, hq⟩

theorem read {f : Context → α} (hq : Q mine (f v.context) v) : Keeps P (read f) mine v Q where
  honours c hc hv := by
    subst hv
    exact ⟨hc, hq⟩

theorem modify {f : Context → Context} {Q : Bool → Unit → View → Prop}
    (hc : Counts P mine v ⟨v.sight, f v.context⟩) (hq : Q mine () ⟨v.sight, f v.context⟩) :
    Keeps P (modify f) mine v Q where
  honours c hc' hv := by
    subst hv
    exact ⟨hc, hc', hq⟩

theorem request {r : Request} {Q : Bool → Outcome → View → Prop}
    (h : P.moot v ∨ P.holds v ∧ P.sends v r ∧ ∀ o w, P.holds w → P.Rely mine v w → Q mine o w) :
    Keeps P (Task.request r) mine v Q where
  honours c hc hv := by
    subst hv
    refine h.imp_right fun h ↦ ⟨⟨hc, h.1⟩, h.2.1, fun o d hd hr ↦ ⟨hd.1, h.2.2 o d.view hd.2 ?_⟩⟩
    exact ⟨hr.le, hr.eq⟩

theorem acquire {Q : Bool → Unit → View → Prop} {g : Gate} (hm : g = P.gate → mine = false)
    (hv : P.holds v) (hq : ∀ w, P.holds w → P.Rely mine v w → Q (mine || g = P.gate) () w) :
    Keeps P (Task.acquire g) mine v Q where
  honours c hc he := by
    subst he
    exact ⟨⟨hc, hv⟩, hm, fun d hd hr ↦ ⟨hd.1, hq d.view hd.2 ⟨hr.le, hr.eq⟩⟩⟩

theorem release {Q : Bool → Unit → View → Prop} {g : Gate} (hm : g = P.gate → mine = true)
    (hq : Q (mine && g ≠ P.gate) () v) : Keeps P (Task.release g) mine v Q where
  honours c hc he := by
    subst he
    exact ⟨hm, hc, hq⟩

variable {X : Bool → Except ClientError α → View → Prop} {Y : Bool → Except ClientError β → View → Prop}

theorem throw {e : ClientError} (h : X mine (.error e) v) : Keeps P (throw e : Action α).run mine v X :=
  .done h

theorem pure (h : X mine (.ok a) v) : Keeps P (pure a : Action α).run mine v X := .done h

theorem except_bind {t : Action α} {f : α → Action β} (h : Keeps P t.run mine v X)
    (hf : ∀ m a v, X m (.ok a) v → Keeps P (f a).run m v Y)
    (he : ∀ m e v, X m (.error e) v → Y m (.error e) v) : Keeps P (t >>= f).run mine v Y := by
  apply h.bind (f := ExceptT.bindCont f)
  intro m r v hx
  cases r with
  | error e => exact .done (he m e v hx)
  | ok a => exact hf m a v hx

theorem sure {t : ConsoleM α} (h : Keeps P t mine v fun m a ↦ X m (.ok a)) :
    Keeps P (Console.sure t).run mine v X :=
  h.bind fun _ _ _ hx ↦ .done hx

theorem sure_bind {t : ConsoleM α} {f : α → Action β} (h : Keeps P t mine v R)
    (hf : ∀ m a v, R m a v → Keeps P (f a).run m v Y) : Keeps P (Console.sure t >>= f).run mine v Y where
  honours c hc hv := by
    apply (h.honours c hc hv).lift_bind
    exact fun m a c hR ↦ (hf m a c.view hR.2).honours c hR.1 rfl

theorem next {t : ConsoleM α} {f : α → ConsoleM β}
    (h : Keeps P t mine v fun m b w ↦ m = mine ∧ b = a ∧ w = v') (hf : Keeps P (f a) mine v' Q') :
    Keeps P (t.bind f) mine v Q' := by
  apply h.bind
  rintro _ _ _ ⟨rfl, rfl, rfl⟩
  exact hf

theorem sure_next {t : ConsoleM α} {f : α → Action β}
    (h : Keeps P t mine v fun m b w ↦ m = mine ∧ b = a ∧ w = v') (hf : Keeps P (f a).run mine v' Y) :
    Keeps P (Console.sure t >>= f).run mine v Y := by
  apply h.sure_bind
  rintro _ _ _ ⟨rfl, rfl, rfl⟩
  exact hf

theorem stored_next {act : ProfileM α} {s : Sight} {f : α → Action β}
    (h : Profile.Does act.run v.sight (.ok a) s) (hc : Counts P mine v ⟨s, v.context⟩)
    (hf : Keeps P (f a).run mine ⟨s, v.context⟩ Y) : Keeps P (stored act >>= f).run mine v Y := by
  refine except_bind (X := fun m r w ↦ m = mine ∧ r = .ok a ∧ w = ⟨s, v.context⟩) ?_ ?_ ?_
  · exact sure_next (.onProfile h hc ⟨rfl, rfl, rfl⟩) (.pure ⟨rfl, rfl, rfl⟩)
  · rintro _ _ _ ⟨rfl, ⟨⟩, rfl⟩
    exact hf
  · rintro _ _ _ ⟨-, ⟨⟩, -⟩

end Keeps

end Console

/-- Nobody is signed in, also where the status has not been told so yet. -/
structure View.LockedOut (v : View) : Prop where
  credential : v.sight.credential = none
  seen_lt : v.context.status.isAuthenticated → v.context.seen < v.context.signOuts

/-- From which forced sign-out on a client is locked out, and for which work: whether it leaves the session
settled, may sign in, and runs alone, and which requests are spelled out by those who asked for it. -/
structure Lockout where
  mark : Nat
  own : Request → Prop
  settled : Prop
  lifted : Prop
  alone : Prop

/-- A coherent view that is locked out from the sign-out `mark` on. -/
structure View.Heeds (mark : Nat) (settled : Prop) (v : View) : Prop where
  coherent : v.Coherent .unknown
  settled : settled → v.context.status.isSettled
  lockedOut : mark ≤ v.context.signOuts → v.LockedOut

namespace Lockout

def Holds (L : Lockout) (v : View) : Prop := v.Heeds L.mark L.settled

def Sends (L : Lockout) (v : View) (r : Request) : Prop :=
  v.sight.credential = none → r.auth = none ∧ (r.refreshToken? = none ∨ L.own r)

def pact (L : Lockout) : Pact Gate View where
  gate := .refresh
  holds := L.Holds
  sends := L.Sends
  count := fun v ↦ v.context.signOuts
  moot := fun v ↦ L.lifted ∧ v.sight.credential.isSome
  alone := L.alone

def Allows (L : Lockout) (method url : String) (body : Body) : Prop :=
  ∀ r, buildRequest method url none body = some r → r.refreshToken? = none ∨ L.own r

end Lockout

theorem View.Heeds.of_credential {mark : Nat} {settled : Prop} {v : View} (hv : v.Heeds mark settled)
    (hc : v.sight.credential.isSome) : v.context.signOuts < mark := by
  refine Nat.lt_of_not_le fun hn ↦ ?_
  rw [(hv.lockedOut hn).credential] at hc
  cases hc

namespace Console

variable {L : Lockout} {v : View}

theorem body_of_buildRequest {method url : String} {token : Option String} {body : Body} {r : Request}
    (hr : buildRequest method url token body = some r) : r.body = body := by
  obtain ⟨u, -, rfl⟩ := Call.request?_eq_some (c := ⟨method, url, token, body⟩) hr
  rfl

theorem plain_allows (L : Lockout) : Plain L.Allows where
  empty _ _ r hr := .inl (by rw [Web.Request.refreshToken?, body_of_buildRequest hr])
  multipart _ _ _ r hr := .inl (by rw [Web.Request.refreshToken?, body_of_buildRequest hr])
  deletion _ _ _ _ r hr := .inl (by rw [Web.Request.refreshToken?, body_of_buildRequest hr]; rfl)

abbrev Awaits (L : Lockout) (mine : Bool) (v w : View) : Prop := L.Holds w ∧ L.pact.Rely mine v w

theorem sendOnce_keeps {mine : Bool} {method url : String} {token : Option String} {body : Body}
    (hv : L.Holds v) (hs : ∀ r, buildRequest method url token body = some r → L.Sends v r) :
    Keeps L.pact (sendOnce method url token body).run mine v fun m r w ↦
      m = mine ∧ (∀ e, r = .error e → e.isSessionExpired = false) ∧ Awaits L mine v w := by
  unfold sendOnce
  cases hr : buildRequest method url token body with
  | none => exact .throw ⟨rfl, by rintro _ ⟨⟩; rfl, hv, .refl _ _ _⟩
  | some r =>
    refine Keeps.sure_bind (R := fun m _ w ↦ m = mine ∧ Awaits L mine v w)
      (.request (.inr ⟨hv, hs r hr, fun _ _ hw hr ↦ ⟨rfl, hw, hr⟩⟩)) ?_
    rintro _ o w ⟨rfl, hw⟩
    cases o with
    | none => exact .throw ⟨rfl, by rintro _ ⟨⟩; rfl, hw⟩
    | some answer => exact .pure ⟨rfl, nofun, hw⟩

theorem credential_keeps {mine : Bool} (v : View) :
    Keeps L.pact (onProfile Profile.credential) mine v fun m c w ↦
      m = mine ∧ c = v.sight.credential ∧ w = v :=
  .onProfile (Profile.credential_does v.sight) (.inl rfl) ⟨rfl, rfl, rfl⟩

theorem accessToken_keeps {mine : Bool} (v : View) :
    Keeps L.pact accessToken mine v fun m t w ↦
      m = mine ∧ t = v.sight.credential.map Credential.access ∧ w = v :=
  Keeps.next (credential_keeps v) (.done ⟨rfl, rfl, rfl⟩)

theorem discardCredential_keeps {mine : Bool} (v : View) :
    Keeps L.pact discardCredential mine v fun m a w ↦
      m = mine ∧ a = () ∧ w = ⟨v.sight.clearCredential, v.context⟩ :=
  Keeps.next (.onProfile (Profile.clearCredential_succeeds v.sight).does (.inl rfl) ⟨rfl, rfl, rfl⟩)
    (.done ⟨rfl, rfl, rfl⟩)

theorem heeds_of_lt {mark : Nat} {settled : Prop} {s : Sight} {c : Context}
    (hv : View.Coherent .unknown ⟨s, c⟩) (hs : settled → c.status.isSettled) (hc : c.signOuts < mark) :
    View.Heeds mark settled ⟨s, c⟩ :=
  ⟨hv, hs, fun hm ↦ absurd hc (Nat.not_lt.mpr hm)⟩

theorem heeds_discarded {mark : Nat} {settled : Prop} (hv : v.Heeds mark settled) :
    View.Heeds mark settled ⟨v.sight.clearCredential, v.context⟩ :=
  ⟨⟨hv.coherent.sound.clearCredential, hv.coherent.seen_le, nofun⟩, hv.settled,
    fun hm ↦ ⟨Sight.credential_clearCredential _, (hv.lockedOut hm).seen_lt⟩⟩

theorem heeds_signedOut {mark : Nat} {settled : Prop} (hv : v.Heeds mark settled) :
    (signedOut v).Heeds mark settled :=
  ⟨hv.coherent.signedOut, hv.settled,
    fun _ ↦ ⟨Sight.credential_clearCredential _, fun _ ↦ Nat.lt_succ_of_le hv.coherent.seen_le⟩⟩

theorem refresh_keeps (hv : L.Holds v) :
    Keeps L.pact refresh.run true v fun m r w ↦ m = true ∧ L.Holds w ∧
      w.context.signOuts = v.context.signOuts ∧ match r with
        | .ok _ => w.sight.credential.isSome = true
        | .error e => e.isSessionExpired = true := by
  refine Keeps.sure_next (credential_keeps v) ?_
  cases ht : v.sight.credential.bind Credential.refresh with
  | none => exact .throw ⟨rfl, hv, rfl, rfl⟩
  | some token =>
    obtain ⟨c, hc, -⟩ := Option.bind_eq_some_iff.mp ht
    have hi : v.sight.identified.credential = some c := by rw [Sight.credential_identified, hc]
    have hlt : v.context.signOuts < L.mark := hv.of_credential (by rw [hc]; rfl)
    simp only
    refine Keeps.stored_next (Profile.deviceId_succeeds v.sight).does (.inl rfl) ?_
    refine Keeps.sure_next (.read ⟨rfl, rfl, rfl⟩) ?_
    refine Keeps.sure_bind (sendOnce_keeps (heeds_of_lt hv.coherent.identified hv.settled hlt) ?_) ?_
    · intro r _ hn
      cases hn.symm.trans hi
    · rintro _ r w ⟨rfl, -, hw, hr⟩
      have he : w.context.signOuts = v.context.signOuts := hr.eq (.inr rfl)
      cases r with
      | error e => exact .throw ⟨rfl, hw, he, rfl⟩
      | ok answer =>
        simp only
        cases hp : refreshedTokens answer with
        | error why => exact .throw ⟨rfl, hw, he, rfl⟩
        | ok pair =>
          obtain ⟨ha, hr⟩ := refreshedTokens_ne hp
          obtain ⟨hc, hs⟩ := hw.coherent.writeTokens ha hr w.sight.remembers
          refine Keeps.stored_next (Profile.replaceTokens_does pair (hw.coherent.sound.timely _))
            (.inl rfl) (.pure ⟨rfl, ?_, he, hs⟩)
          exact heeds_of_lt hc hw.settled (he ▸ hlt)

def Retries (L : Lockout) (v : View) (r : Except ClientError String) (w : View) : Prop :=
  L.Holds w ∧ match r with
    | .ok _ => w.sight.credential.isSome = true ∧ w.context.signOuts = v.context.signOuts
    | .error e => e.isSessionExpired = true ∧ w.context.signOuts = v.context.signOuts + 1

theorem renew_keeps (hv : L.Holds v) :
    Keeps L.pact freshToken.renew.run true v fun m r w ↦ m = true ∧ Retries L v r w := by
  refine Keeps.sure_bind (refresh_keeps hv) ?_
  rintro _ r w ⟨rfl, hw, he, hr⟩
  cases r with
  | ok t => exact .pure ⟨rfl, hw, hr, he⟩
  | error e =>
    refine Keeps.sure_next (discardCredential_keeps w) ?_
    refine Keeps.sure_next (.modify (.inr ⟨rfl, Nat.le_succ _⟩) ⟨rfl, rfl, rfl⟩) ?_
    exact .throw ⟨rfl, heeds_signedOut hw, hr, congrArg (· + 1) he⟩

theorem freshToken_keeps (hv : L.Holds v) (refused : Option String) :
    Keeps L.pact (freshToken refused).run true v fun m r w ↦ m = true ∧ Retries L v r w := by
  refine Keeps.sure_next (accessToken_keeps v) ?_
  cases hc : v.sight.credential with
  | none => exact renew_keeps hv
  | some c =>
    simp only [Option.map_some]
    split
    · exact .pure ⟨rfl, hv, by rw [hc]; rfl, rfl⟩
    · exact renew_keeps hv

def forced : Except ClientError α → Nat
  | .error e => if e.isSessionExpired then 1 else 0
  | .ok _ => 0

/-- What a call leaves. If it runs alone, the count tells whether it failed since no token could be
refreshed. -/
def Tallies (L : Lockout) (v : View) (r : Except ClientError α) (w : View) : Prop :=
  L.Holds w ∧ (L.alone → w.context.signOuts = v.context.signOuts + forced r)

theorem request_keeps {method url : String} {body : Body} (hv : L.Holds v)
    (ho : L.Allows method url body) :
    Keeps L.pact (request method url body).run false v fun m r w ↦ m = false ∧ Tallies L v r w := by
  refine Keeps.sure_next (accessToken_keeps v) ?_
  refine Keeps.except_bind (sendOnce_keeps hv ?_) ?_ ?_
  · intro r hr hn
    simp only [hn, Option.map_none] at hr
    exact ⟨auth_of_buildRequest hr, ho r hr⟩
  · rintro _ first w ⟨rfl, -, hw, hvw⟩
    split
    · exact .pure ⟨rfl, hw, fun ha ↦ hvw.eq (.inl ha)⟩
    refine Keeps.sure_bind (R := fun m _ u ↦ m = true ∧ Awaits L false w u)
      (.acquire (fun _ ↦ rfl) hw fun u hu hr ↦ ⟨rfl, hu, hr⟩) ?_
    rintro _ _ u ⟨rfl, hu, hwu⟩
    -- If the call runs alone, nobody else counts while it waits for the lock.
    have hcount (ha : L.alone) : u.context.signOuts = v.context.signOuts :=
      (hwu.eq (.inl ha)).trans (hvw.eq (.inl ha))
    refine Keeps.sure_bind (freshToken_keeps hu _) ?_
    rintro _ r x ⟨rfl, hx, hr⟩
    refine Keeps.sure_bind (R := fun m _ y ↦ m = false ∧ y = x) (.release (fun _ ↦ rfl) ⟨rfl, rfl⟩) ?_
    rintro _ _ _ ⟨rfl, rfl⟩
    cases r with
    | error e =>
      refine .throw ⟨rfl, hx, fun ha ↦ ?_⟩
      simp only [forced, hr.1, if_true]
      exact hr.2.trans (congrArg (· + 1) (hcount ha))
    | ok t =>
      refine (sendOnce_keeps hx fun _ _ hn ↦ ?_).mono ?_
      · rw [hn] at hr
        cases hr.1
      · rintro _ r y ⟨rfl, he, hy, hxy⟩
        refine ⟨rfl, hy, fun ha ↦ ?_⟩
        have hf : forced r = 0 := by
          cases r with
          | error e => simp only [forced, he e rfl, Bool.false_eq_true, if_false]
          | ok a => rfl
        rw [hf]
        exact (hxy.eq (.inl ha)).trans (hr.2.trans (hcount ha))
  · rintro _ e w ⟨rfl, he, hw, hvw⟩
    refine ⟨rfl, hw, fun ha ↦ ?_⟩
    simp only [forced, he e rfl, Bool.false_eq_true, if_false]
    exact hvw.eq (.inl ha)

theorem isSessionExpired_of_envelopeOf {dec : Decoder α} {r : Response} {e : ClientError}
    (h : envelopeOf dec r = .error e) : e.isSessionExpired = false := by
  unfold envelopeOf at h
  split at h
  · cases h
  · split at h
    · cases h
      simp only [apiError]
      split <;> rfl
    · cases hd : decodeBody (Envelope.decode dec) r with
      | ok v =>
        rw [hd] at h
        cases h
      | error d =>
        rw [hd] at h
        cases h
        rfl

theorem sendEnvelope_keeps {method url : String} {body : Body} (hv : L.Holds v)
    (ho : L.Allows method url body) (dec : Decoder α) :
    Keeps L.pact (sendEnvelope dec method url body).run false v fun m r w ↦
      m = false ∧ Tallies L v r w := by
  refine Keeps.except_bind (request_keeps hv ho) ?_ fun _ _ _ h ↦ h
  rintro _ answer w ⟨rfl, hw⟩
  cases he : envelopeOf dec answer with
  | ok envelope => exact .pure ⟨rfl, hw⟩
  | error e =>
    refine .throw ⟨rfl, hw.1, fun ha ↦ ?_⟩
    simp only [forced, isSessionExpired_of_envelopeOf he, Bool.false_eq_true, if_false]
    exact hw.2 ha

theorem fetchCurrentUser_keeps (hv : L.Holds v) :
    Keeps L.pact fetchCurrentUser.run false v fun m r w ↦ m = false ∧ Tallies L v r w := by
  refine Keeps.sure_next (.read ⟨rfl, rfl, rfl⟩) ?_
  refine Keeps.except_bind (sendEnvelope_keeps hv ((plain_allows L).empty _ _) _) ?_ fun _ _ _ h ↦ h
  rintro _ envelope w ⟨rfl, hw⟩
  split
  · exact .throw ⟨rfl, hw⟩
  · exact .throw ⟨rfl, hw⟩
  · exact .pure ⟨rfl, hw⟩

theorem heeds_of_standing {mark : Nat} {settled : Prop} (hv : v.Heeds mark settled) {c : Context}
    (hc : c.standing = v.context.standing) : View.Heeds mark settled ⟨v.sight, c⟩ := by
  obtain ⟨-, ho, hs, hn⟩ : c.config = v.context.config ∧ c.signOuts = v.context.signOuts ∧
      c.status = v.context.status ∧ c.seen = v.context.seen := by
    simpa only [Context.standing, Standing.mk.injEq] using hc
  refine ⟨hv.coherent.of_standing hc, ?_, fun hm ↦ ?_⟩
  · simpa only [hs] using hv.settled
  · obtain ⟨hn', hl⟩ := hv.lockedOut (ho ▸ hm)
    exact ⟨hn', by simpa only [ho, hs, hn] using hl⟩

theorem heeds_observed {mark : Nat} {settled : Prop} (hv : v.Heeds mark settled) :
    View.Heeds mark settled ⟨v.sight, v.context.observed⟩ := by
  refine ⟨observed_coherent hv.coherent, ?_, ?_⟩ <;> unfold Context.observed <;> split
  · exact fun _ ↦ rfl
  · exact hv.settled
  · exact fun hm ↦ ⟨(hv.lockedOut hm).credential, nofun⟩
  · exact hv.lockedOut

theorem signOuts_observed (c : Context) : c.observed.signOuts = c.signOuts := by
  unfold Context.observed
  split <;> rfl

theorem postPublic_keeps {url : String} {body : Json} (hv : L.Holds v)
    (ho : L.Allows "POST" url (.json body)) :
    Keeps L.pact (postPublic url body).run false v fun m r w ↦
      m = false ∧ (∀ e, r = .error e → e.isSessionExpired = false) ∧ Awaits L false v w :=
  sendOnce_keeps hv fun r hr _ ↦ ⟨auth_of_buildRequest hr, ho r hr⟩

/-- Whatever runs beside it, a chore that makes calls that are allowed keeps the client locked out. -/
theorem Chore.keeps {ok : String → String → Body → Prop} {t : ConsoleM α} (ht : Chore ok t) {L : Lockout}
    (ho : ∀ method url body, ok method url body → L.Allows method url body) (hl : ¬L.lifted) {v : View}
    (hv : L.Holds v) : Keeps L.pact t false v fun m _ w ↦ m = false ∧ L.Holds w := by
  induction ht generalizing L v with
  | done a => exact .done ⟨rfl, hv⟩
  | bind _ _ ih ihf =>
    refine (ih ho hl hv).bind ?_
    rintro _ a w ⟨rfl, hw⟩
    exact ihf a ho hl hw
  | read f => exact .read ⟨rfl, hv⟩
  | modify hf =>
    have hs := hf v.context
    exact .modify (.inl (congrArg Standing.signOuts hs)) ⟨rfl, heeds_of_standing hv hs⟩
  | observe => exact .modify (.inl (signOuts_observed _)) ⟨rfl, heeds_observed hv⟩
  | request h => exact (request_keeps hv (ho _ _ _ h)).mono fun _ _ _ h ↦ ⟨h.1, h.2.1⟩
  | postPublic h => exact (postPublic_keeps hv (ho _ _ _ h)).mono fun _ _ _ h ↦ ⟨h.1, h.2.2.1⟩
  | acquire k => exact .acquire nofun hv fun w hw _ ↦ ⟨rfl, hw⟩
  | release k => exact .release nofun ⟨rfl, hv⟩
  | @all _ ts hts ih =>
    -- Side by side the tasks keep to the same pact, but each may find that others counted a sign-out.
    induction ts generalizing L v with
    | nil => exact .done ⟨rfl, hv⟩
    | cons t ts iht =>
      let L' : Lockout := { L with alone := False }
      have rests {β : Type} {u : ConsoleM β}
          (hu : ∀ {v}, L'.Holds v → Keeps L'.pact u false v fun m _ w ↦ m = false ∧ L'.Holds w)
          (d : Console) (hd : (sworn L.pact).holds d) :
          u.Honours (sworn L.pact).shared (sworn L.pact).rests false d :=
        ((hu hd.2).honours d hd.1 rfl).mono fun _ _ _ h ↦ ⟨h.2.1, h.1, h.2.2⟩
      refine ⟨fun c hc he ↦ ⟨rfl, fun _ h ↦ hl h.1, ⟨hc, he ▸ hv⟩, ?_, ?_, fun _ _ _ hd ↦ ⟨hd.1, rfl, hd.2⟩⟩⟩
      · exact rests fun hv ↦ ih t List.mem_cons_self (L := L') ho hl hv
      · exact rests fun hv ↦ iht (fun t ht ↦ hts t (List.mem_cons_of_mem _ ht))
          (fun t ht ↦ ih t (List.mem_cons_of_mem _ ht)) (L := L') ho hl hv

end Console

end Backoffice
