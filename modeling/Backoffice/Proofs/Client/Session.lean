import Backoffice.Client.Workspace
import Backoffice.Proofs.Client.Coherence

namespace Backoffice

open Web (Request Response)

namespace Console

variable {h : Holding} {T : Terms View} {v : View} {α : Type}

theorem Ensures.alone {t : ConsoleM α} {Q : α → View → Prop} (ht : Ensures h.amid t v Q) :
    Ensures h.alone t v Q :=
  ht.weaken id (fun _ _ hw ↦ ⟨hw, trivial⟩) id

theorem Ensures.alone_of_held {t : ConsoleM α} {Q : α → View → Prop}
    (ht : Ensures Holding.held.amid t v Q) : Ensures Holding.backed.alone t v Q := by
  refine ht.weaken (fun hv ↦ ⟨hv.1.of_clock fun _ ↦ rfl, trivial⟩) (fun hv hvw hw ↦ ⟨⟨?_, ?_⟩, trivial⟩)
    nofun
  · exact hw.1.of_clock fun _ ↦ rfl
  · rw [Holding.Admits, hvw.eq_of_sparing rfl]
    exact hv.2

def settled (v : View) (s : SessionStatus) : View :=
  ⟨v.sight, { v.context with status := s, seen := v.context.signOuts }⟩

theorem setStatus_ensures (s : SessionStatus) (v : View) :
    Ensures T (setStatus s) v fun a w ↦ a = () ∧ w = settled v s :=
  .modify ⟨rfl, rfl⟩

theorem settled_coherent (hv : v.sight.Sound) {s : SessionStatus}
    (hs : s.isAuthenticated → h.clock = .sparing → v.sight.credential.isSome) :
    (settled v s).Coherent h where
  sound := hv
  seen_le := Nat.le_refl _
  credential hk ha _ := hs ha hk

theorem fetchCurrentUser_alone (hh : h ≠ .held) (hb : h ≠ .bare) (hv : v.Coherent h)
    (hc : v.sight.credential.isSome) :
    EnsuresOf h.alone fetchCurrentUser v fun r w ↦ w.sight.Sound ∧
      ∀ session, r = .ok session → h.clock = .sparing → w.sight.credential.isSome := by
  cases h with
  | unknown =>
    apply Ensures.mono (fetchCurrentUser_ensures ⟨hv, trivial⟩).alone
    intro r w hq
    rcases hq with hw | ⟨hw, -⟩
    · exact ⟨hw.1.sound, fun _ _ ↦ nofun⟩
    · exact ⟨hw.sound, fun _ _ ↦ nofun⟩
  | bare => exact absurd rfl hb
  | backed =>
    -- Nobody else takes the credential away meanwhile, so it may be counted as held.
    have hv : Holding.held.Holds v := ⟨hv.of_clock fun _ ↦ rfl, hc⟩
    apply Ensures.mono (fetchCurrentUser_ensures hv).alone_of_held
    intro r w hq
    rcases hq with hw | ⟨hw, ⟨e, rfl⟩, -⟩
    · exact ⟨hw.1.sound, fun _ _ _ ↦ hw.2⟩
    · exact ⟨hw.sound, nofun⟩
  | held => exact absurd rfl hh

theorem bootstrap_settled_ensures (hh : h ≠ .held) (hv : h.Holds v) :
    Ensures h.alone bootstrap.settled v fun s w ↦
      w.sight.Sound ∧ h.Admits w.sight.credential ∧
        (s.isAuthenticated → h.clock = .sparing → w.sight.credential.isSome) := by
  refine Ensures.next (credential_ensures v) ?_
  cases hc : v.sight.credential with
  | none => exact .done ⟨hv.1.sound, hv.2, nofun⟩
  | some c =>
    have hb : h ≠ .bare := by
      intro hq
      subst hq
      cases hc.symm.trans hv.2
    apply Ensures.bind (fetchCurrentUser_alone hh hb hv.1 (by rw [hc]; rfl))
    intro r w hq
    obtain ⟨hw, hs⟩ := hq
    cases r with
    | error e =>
      refine Ensures.next (discardCredential_ensures w) ?_
      exact .done ⟨hw.clearCredential, .of_none hh (Sight.credential_clearCredential _), nofun⟩
    | ok session => exact .done ⟨hw, .of_ne hh hb, fun _ ↦ hs session rfl⟩

theorem bootstrap_ensures (hh : h ≠ .held) (hv : h.Holds v) :
    Ensures h.alone bootstrap v fun _ ↦ h.Holds := by
  refine Ensures.next (setStatus_ensures .bootstrapping v) ?_
  have hb : h.Holds (settled v .bootstrapping) :=
    ⟨settled_coherent hv.1.sound nofun, hv.2⟩
  apply (bootstrap_settled_ensures hh hb).bind
  intro s w hq
  obtain ⟨hw, hc, hs⟩ := hq
  refine Ensures.next (setStatus_ensures s w) ?_
  exact .done ⟨settled_coherent hw hs, hc⟩

theorem status_ensures (v : View) : Ensures T status v fun x w ↦
    x = v.context.observed.status ∧ w = ⟨v.sight, v.context.observed⟩ :=
  Ensures.next (.modify ⟨rfl, rfl⟩) (.read ⟨rfl, rfl⟩)

theorem isAuthenticated_ensures (v : View) : Ensures T isAuthenticated v fun a w ↦
    a = v.context.observed.status.isAuthenticated ∧ w = ⟨v.sight, v.context.observed⟩ :=
  Ensures.next (status_ensures v) (.done ⟨rfl, rfl⟩)

theorem bootstrap_unsigned (hc : v.sight.credential = none) :
    Ensures T bootstrap v fun x w ↦ x = .unauthenticated ∧ w = settled v .unauthenticated := by
  have hs : Ensures T bootstrap.settled (settled v .bootstrapping) fun x w ↦
      x = .unauthenticated ∧ w = settled v .bootstrapping := by
    refine Ensures.next (credential_ensures _) ?_
    simp only [settled, hc]
    exact .done ⟨rfl, rfl⟩
  refine Ensures.next (setStatus_ensures .bootstrapping v) (Ensures.next hs ?_)
  exact Ensures.next (setStatus_ensures .unauthenticated _) (.done ⟨rfl, rfl⟩)

theorem loginTokens_ne {r : Response} {pair : TokenPair} (hp : loginTokens r = .ok pair) :
    pair.access ≠ "" ∧ pair.refresh ≠ some "" := by
  unfold loginTokens at hp
  split at hp
  · cases hp
  · split at hp
    · cases hp
    · split at hp
      · cases hp
      · split at hp
        · next ht =>
          cases hp
          exact tokens_ne ht
        · cases hp

theorem stored_setCredential (pair : TokenPair) (remember : Bool) (payload : Option LoginPayload)
    (hv : v.sight.Timely) :
    EnsuresOf T (stored (Profile.setCredential pair remember payload)) v fun r w ↦
      r = .ok () ∧ w = ⟨v.sight.setCredential pair remember payload, v.context⟩ :=
  .stored (Profile.setCredential_succeeds pair payload (hv remember)).does ⟨rfl, rfl⟩

/-- Signing in comes to a session with a credential, or it fails with none where there was none. -/
theorem tryLogin_ensures (hh : h ≠ .held) (hb : h ≠ .bare) (hv : v.Coherent h)
    (payload : LoginPayload) (remember : Bool) :
    EnsuresOf h.alone (tryLogin payload remember) v fun r w ↦ w.sight.Sound ∧
      match r with
      | .ok _ => h.clock = .sparing → w.sight.credential.isSome
      | .error _ => v.sight.credential = none → w.sight.credential = none := by
  refine Ensures.sure_next (.read ⟨rfl, rfl⟩) ?_
  have hs : h.Holds v := ⟨hv, .of_ne hh hb⟩
  apply EnsuresOf.bind (postPublic_ensures (T := h.alone) hs fun _ hr _ ↦ hr)
  · intro answer w hq
    obtain ⟨hw, hc⟩ := hq
    cases hp : loginTokens answer with
    | error e => exact .throw ⟨hw.1.sound, hc.of_none⟩
    | ok pair =>
      obtain ⟨ha, hr⟩ := loginTokens_ne hp
      have hc' : (w.sight.setCredential pair remember (some payload)).credential.isSome := by
        rw [Sight.credential_setCredential _ ha hr]
        rfl
      have hw' : View.Coherent h ⟨w.sight.setCredential pair remember (some payload), w.context⟩ :=
        ⟨hw.1.sound.setCredential ha remember (some payload), hw.1.seen_le, fun _ _ _ ↦ hc'⟩
      refine EnsuresOf.next (stored_setCredential pair remember _ hw.1.sound.timely) ?_
      apply Ensures.sure_bind (fetchCurrentUser_alone hh hb hw' hc')
      intro r u hq
      obtain ⟨hu, hs⟩ := hq
      cases r with
      | error e =>
        refine Ensures.sure_next (discardCredential_ensures u) ?_
        exact .throw ⟨hu.clearCredential, fun _ ↦ Sight.credential_clearCredential _⟩
      | ok session => exact .pure ⟨hu, hs session rfl⟩
  · intro e w hq
    obtain ⟨hw, hc⟩ := hq
    exact ⟨hw.1.sound, hc.of_none⟩

theorem loginWith_ensures (hh : h ≠ .held) (hb : h ≠ .bare) (hv : v.sight.Sound)
    (payload : LoginPayload) (remember : Bool) :
    Ensures h.alone (loginWith payload remember) v fun r w ↦ w.Coherent h ∧
      (r = false → v.sight.credential = none → w.sight.credential = none) := by
  refine Ensures.next (setStatus_ensures .loading v) ?_
  have hl : (settled v .loading).Coherent h := settled_coherent hv nofun
  apply Ensures.bind (tryLogin_ensures hh hb hl payload remember)
  intro r w hq
  obtain ⟨hw, hc⟩ := hq
  cases r with
  | error e =>
    refine Ensures.next (setStatus_ensures .unauthenticated w) ?_
    exact .done ⟨settled_coherent hw nofun, fun _ ↦ hc⟩
  | ok session =>
    refine Ensures.next (setStatus_ensures (.authenticated session) w) ?_
    exact .done ⟨settled_coherent hw fun _ ↦ hc, nofun⟩

theorem login_ensures (hh : h ≠ .held) (hb : h ≠ .bare) (hv : v.Coherent h)
    (email password : String) (remember : Bool) :
    EnsuresOf h.alone (login email password remember) v fun r w ↦ w.Coherent h ∧
      (r ≠ .ok true → v.sight.credential = none → w.sight.credential = none) := by
  refine EnsuresOf.next (.stored (Profile.deviceId_succeeds v.sight).does ⟨rfl, rfl⟩) ?_
  refine Ensures.sure_next (.read ⟨rfl, rfl⟩) ?_
  apply Ensures.sure
  apply (loginWith_ensures hh hb hv.sound.identified _ remember).mono
  intro r w hq
  obtain ⟨hw, hc⟩ := hq
  refine ⟨hw, fun hr ↦ ?_⟩
  cases r with
  | true => exact absurd rfl hr
  | false => simpa only [Sight.credential_identified] using hc rfl

theorem signOut_ensures (hv : v.Coherent h) :
    EnsuresOf T signOut v fun r w ↦
      r = .ok () ∧ w.Coherent h ∧ w.sight.credential = none := by
  have hc : Ensures T current v fun _ w ↦ w = ⟨v.sight, v.context.observed⟩ :=
    Ensures.next (status_ensures v) (.done rfl)
  apply hc.sure_bind
  intro _ _ hq
  subst hq
  refine EnsuresOf.next (.stored (Profile.clearCredential_succeeds v.sight).does ⟨rfl, rfl⟩) ?_
  refine EnsuresOf.next (.stored (Profile.clearRemembered_succeeds _).does ⟨rfl, rfl⟩) ?_
  apply Ensures.sure
  apply (setStatus_ensures .unauthenticated _).mono
  intro _ _ hq
  obtain ⟨-, rfl⟩ := hq
  refine ⟨rfl, settled_coherent (v := ⟨v.sight.clearCredential.clearRemembered, _⟩) ?_ nofun, ?_⟩
  · exact hv.sound.clearCredential.clearRemembered
  · exact Sight.credential_clearCredential v.sight

theorem reload_unsigned (hc : v.sight.credential = none) :
    Ensures T reload v fun _ w ↦
      w = settled ⟨v.sight, .fresh v.context.config v.context.hostName⟩ .unauthenticated := by
  refine Ensures.next (.modify ⟨rfl, rfl⟩) ?_
  exact Ensures.mono (bootstrap_unsigned hc) fun _ _ h ↦ h.2

theorem start_unsigned (hc : v.sight.credential = none) :
    EnsuresOf T start v fun r w ↦ r = .ok .unauthenticated ∧ w = settled v .unauthenticated := by
  refine EnsuresOf.next (.stored (Profile.purge_succeeds v.sight).does ⟨rfl, rfl⟩) ?_
  exact Ensures.sure ((bootstrap_unsigned hc).mono fun _ _ h ↦ ⟨congrArg _ h.1, h.2⟩)

theorem start_ensures (hh : h ≠ .held) (hv : h.Holds v) :
    EnsuresOf h.alone start v fun r w ↦ (∃ s, r = .ok s) ∧ h.Holds w := by
  refine EnsuresOf.next (.stored (Profile.purge_succeeds v.sight).does ⟨rfl, rfl⟩) ?_
  exact Ensures.sure ((bootstrap_ensures hh hv).mono fun s w hw ↦ ⟨⟨s, rfl⟩, hw⟩)

end Console

end Backoffice
