import Backoffice.Proofs.Client.Lockout
import Backoffice.Proofs.Json.Values

namespace Backoffice

open Web (Body)

variable {α β : Type}

namespace Console

variable {L : Lockout} {v : View}

theorem setStatus_keeps (x : SessionStatus) (v : View) :
    Keeps L.pact (setStatus x) false v fun m a w ↦ m = false ∧ a = () ∧ w = settled v x :=
  .modify (.inl rfl) ⟨rfl, rfl, rfl⟩

theorem heeds_settled {mark : Nat} {p q : Prop} (hv : v.Heeds mark p) {x : SessionStatus}
    (hs : q → x.isSettled) (ha : x.isAuthenticated → v.context.signOuts < mark) :
    (settled v x).Heeds mark q where
  coherent := settled_coherent hv.coherent.sound nofun
  settled := hs
  lockedOut hm := ⟨(hv.lockedOut hm).credential, fun h ↦ absurd (ha h) (Nat.not_lt.mpr hm)⟩

theorem Tallies.lt_of_ok {w : View} {a : α} (h : Tallies L v (.ok a) w) (ha : L.alone)
    (hv : v.context.signOuts < L.mark) : w.context.signOuts < L.mark := by
  rw [h.2 ha]
  exact hv

theorem bootstrap_settled_keeps (ha : L.alone) (hv : L.Holds v) :
    Keeps L.pact bootstrap.settled false v fun m x w ↦ m = false ∧ L.Holds w ∧
      x.isSettled = true ∧ (x.isAuthenticated → w.context.signOuts < L.mark) := by
  refine Keeps.next (credential_keeps v) ?_
  cases hc : v.sight.credential with
  | none => exact .done ⟨rfl, hv, rfl, nofun⟩
  | some c =>
    refine (fetchCurrentUser_keeps hv).bind ?_
    rintro _ r w ⟨rfl, hw⟩
    cases r with
    | error e =>
      exact Keeps.next (discardCredential_keeps w) (.done ⟨rfl, heeds_discarded hw.1, rfl, nofun⟩)
    | ok session =>
      exact .done ⟨rfl, hw.1, rfl, fun _ ↦ hw.lt_of_ok ha (hv.of_credential (by rw [hc]; rfl))⟩

/-- Whoever settles the session alone leaves it settled. -/
theorem bootstrap_keeps (ha : L.alone) (hb : ¬L.settled) (hv : L.Holds v) :
    Keeps L.pact bootstrap false v fun m _ w ↦ m = false ∧ w.Heeds L.mark True := by
  refine Keeps.next (setStatus_keeps .bootstrapping v) ?_
  refine (bootstrap_settled_keeps ha (heeds_settled hv (absurd · hb) fun h ↦ by cases h)).bind ?_
  rintro _ x w ⟨rfl, hw, hs, hx⟩
  exact Keeps.next (setStatus_keeps x w) (.done ⟨rfl, heeds_settled hw (fun _ ↦ hs) hx⟩)

theorem start_keeps (ha : L.alone) (hb : ¬L.settled) (hv : L.Holds v) :
    Keeps L.pact start.run false v fun m r w ↦
      m = false ∧ (∃ x, r = .ok x) ∧ w.Heeds L.mark True := by
  refine Keeps.stored_next (Profile.purge_succeeds v.sight).does (.inl rfl) (.sure ?_)
  exact (bootstrap_keeps ha hb hv).mono fun _ x _ h ↦ ⟨h.1, ⟨x, rfl⟩, h.2⟩

theorem request_over {method url : String} {body : Body} (hv : L.pact.moot v) :
    Keeps L.pact (request method url body).run false v fun m r w ↦
      m = false ∧ w = v ∧ ∃ e, r = .error e := by
  refine Keeps.sure_next (accessToken_keeps v) ?_
  refine Keeps.except_bind (X := fun m r w ↦ m = false ∧ w = v ∧ ∃ e, r = .error e) ?_ ?_ ?_
  · unfold sendOnce
    split
    · exact .throw ⟨rfl, rfl, _, rfl⟩
    · exact Keeps.sure_bind (R := fun _ _ _ ↦ False) (.request (.inl hv)) fun _ _ _ h ↦ h.elim
  · rintro _ _ _ ⟨-, -, _, ⟨⟩⟩
  · exact fun _ e _ h ↦ ⟨h.1, h.2.1, e, rfl⟩

theorem fetchCurrentUser_over (hv : L.pact.moot v) :
    Keeps L.pact fetchCurrentUser.run false v fun m r w ↦ m = false ∧ w = v ∧ ∃ e, r = .error e := by
  refine Keeps.sure_next (.read ⟨rfl, rfl, rfl⟩) ?_
  refine Keeps.except_bind (X := fun m r w ↦ m = false ∧ w = v ∧ ∃ e, r = .error e) ?_ ?_ ?_
  · refine Keeps.except_bind (request_over hv) ?_ ?_
    · rintro _ _ _ ⟨-, -, _, ⟨⟩⟩
    · exact fun _ e _ h ↦ ⟨h.1, h.2.1, e, rfl⟩
  · rintro _ _ _ ⟨-, -, _, ⟨⟩⟩
  · exact fun _ e _ h ↦ ⟨h.1, h.2.1, e, rfl⟩

theorem refreshToken_not_mem_members (p : LoginPayload) :
    ∀ m ∈ ("email", Json.str p.email) :: ("password", .str p.password) :: p.device.members,
      m.1 ≠ "refreshToken" := by
  have written {name : String} (hn : name ≠ "refreshToken") (o : Option String) :
      ∀ m ∈ DeviceInfo.written name o, m.1 ≠ "refreshToken" := by
    cases o with
    | none => exact nofun
    | some s => exact fun m hm ↦ List.mem_singleton.mp hm ▸ hn
  simp only [DeviceInfo.members, List.forall_mem_cons, List.forall_mem_append, List.not_mem_nil,
    false_imp_iff, implies_true, and_true]
  refine ⟨by decide, by decide, ⟨⟨⟨⟨by decide, written (by decide) _⟩, by decide, by decide⟩, ?_⟩, ?_⟩, ?_⟩
  all_goals exact written (by decide) _

theorem login_allows (L : Lockout) (url : String) (p : LoginPayload) :
    L.Allows "POST" url (.json p.toJson) := by
  intro r hr
  left
  rw [Web.Request.refreshToken?, body_of_buildRequest hr]
  exact congrArg (·.bind Json.str?) (Json.member?_ofMembers (refreshToken_not_mem_members p))

/-- Signing in from the mark on is lifted; it comes to a session before the mark only. -/
theorem tryLogin_keeps (ha : L.alone) (hv : L.Holds v)
    (hl : L.mark ≤ v.context.signOuts → L.lifted) (payload : LoginPayload) (remember : Bool) :
    Keeps L.pact (tryLogin payload remember).run false v fun m r w ↦
      m = false ∧ L.Holds w ∧ ∀ session, r = .ok session → w.context.signOuts < L.mark := by
  refine Keeps.sure_next (.read ⟨rfl, rfl, rfl⟩) ?_
  refine Keeps.except_bind (postPublic_keeps hv (login_allows L _ payload)) ?_ ?_
  · rintro _ answer w ⟨rfl, -, hw, hvw⟩
    have he : w.context.signOuts = v.context.signOuts := hvw.eq (.inl ha)
    cases hp : loginTokens answer with
    | error e => exact .throw ⟨rfl, hw, nofun⟩
    | ok pair =>
      obtain ⟨hn, hr⟩ := loginTokens_ne hp
      have hc : (w.sight.setCredential pair remember (some payload)).credential.isSome := by
        rw [Sight.credential_setCredential _ hn hr]
        rfl
      have hw' : View.Coherent .unknown ⟨w.sight.setCredential pair remember (some payload), w.context⟩ :=
        ⟨hw.coherent.sound.setCredential hn remember (some payload), hw.coherent.seen_le, nofun⟩
      have hs := Profile.setCredential_succeeds pair (some payload) (hw.coherent.sound.timely remember)
      refine Keeps.stored_next hs.does (.inl rfl) ?_
      by_cases hm : L.mark ≤ w.context.signOuts
      · -- The lock-out is over, and what follows is not asked for any more.
        refine Keeps.sure_bind (fetchCurrentUser_over ⟨hl (he ▸ hm), hc⟩) ?_
        rintro _ _ _ ⟨rfl, rfl, e, rfl⟩
        refine Keeps.sure_next (discardCredential_keeps _) (.throw ⟨rfl, ⟨?_, ?_, fun _ ↦ ?_⟩, nofun⟩)
        · exact ⟨hw'.sound.clearCredential, hw'.seen_le, nofun⟩
        · exact hw.settled
        · exact ⟨Sight.credential_clearCredential _, (hw.lockedOut hm).seen_lt⟩
      · have hlt : w.context.signOuts < L.mark := Nat.lt_of_not_le hm
        refine Keeps.sure_bind (fetchCurrentUser_keeps (heeds_of_lt hw' hw.settled hlt)) ?_
        rintro _ r u ⟨rfl, hu⟩
        cases r with
        | error e =>
          exact Keeps.sure_next (discardCredential_keeps u) (.throw ⟨rfl, heeds_discarded hu.1, nofun⟩)
        | ok session => exact .pure ⟨rfl, hu.1, fun _ _ ↦ hu.lt_of_ok ha hlt⟩
  · exact fun _ _ _ h ↦ ⟨h.1, h.2.2.1, nofun⟩

theorem loginWith_keeps (ha : L.alone) (hb : ¬L.settled) (hv : L.Holds v)
    (hl : L.mark ≤ v.context.signOuts → L.lifted) (payload : LoginPayload) (remember : Bool) :
    Keeps L.pact (loginWith payload remember) false v fun m _ w ↦ m = false ∧ w.Heeds L.mark True := by
  refine Keeps.next (setStatus_keeps .loading v) ?_
  refine (tryLogin_keeps ha (heeds_settled hv (absurd · hb) fun h ↦ by cases h) hl payload remember).bind ?_
  rintro _ r w ⟨rfl, hw, hs⟩
  cases r with
  | error e =>
    refine Keeps.next (setStatus_keeps .unauthenticated w) (.done ⟨rfl, ?_⟩)
    exact heeds_settled hw (fun _ ↦ rfl) fun h ↦ by cases h
  | ok session =>
    refine Keeps.next (setStatus_keeps (.authenticated session) w) (.done ⟨rfl, ?_⟩)
    exact heeds_settled hw (fun _ ↦ rfl) fun _ ↦ hs session rfl

theorem heeds_identified {mark : Nat} {p : Prop} (hv : v.Heeds mark p) :
    View.Heeds mark p ⟨v.sight.identified, v.context⟩ where
  coherent := hv.coherent.identified
  settled := hv.settled
  lockedOut hm := ⟨Sight.credential_identified v.sight ▸ (hv.lockedOut hm).credential, (hv.lockedOut hm).seen_lt⟩

theorem login_keeps (ha : L.alone) (hb : ¬L.settled) (hv : L.Holds v)
    (hl : L.mark ≤ v.context.signOuts → L.lifted) (email password : String) (remember : Bool) :
    Keeps L.pact (login email password remember).run false v fun m _ w ↦
      m = false ∧ w.Heeds L.mark True := by
  refine Keeps.stored_next (Profile.deviceId_succeeds v.sight).does (.inl rfl) ?_
  exact Keeps.sure_next (.read ⟨rfl, rfl, rfl⟩) (.sure (loginWith_keeps ha hb (heeds_identified hv) hl _ _))

theorem signOut_keeps (hv : L.Holds v) :
    Keeps L.pact signOut.run false v fun m _ w ↦ m = false ∧ w.Heeds L.mark True := by
  have hc : Keeps L.pact current false v fun m _ w ↦ m = false ∧ w = ⟨v.sight, v.context.observed⟩ :=
    Keeps.next (Keeps.next (.modify (.inl (signOuts_observed _)) ⟨rfl, rfl, rfl⟩) (.read ⟨rfl, rfl, rfl⟩))
      (.done ⟨rfl, rfl⟩)
  refine hc.sure_bind ?_
  rintro _ _ _ ⟨rfl, rfl⟩
  refine Keeps.stored_next (Profile.clearCredential_succeeds v.sight).does (.inl rfl) ?_
  refine Keeps.stored_next (Profile.clearRemembered_succeeds _).does (.inl rfl) (.sure ?_)
  refine (setStatus_keeps .unauthenticated _).mono ?_
  rintro _ _ _ ⟨rfl, -, rfl⟩
  refine ⟨rfl, settled_coherent ?_ nofun, fun _ ↦ rfl, fun _ ↦ ⟨?_, nofun⟩⟩
  · exact hv.coherent.sound.clearCredential.clearRemembered
  · exact Sight.credential_clearCredential v.sight

end Console

end Backoffice
