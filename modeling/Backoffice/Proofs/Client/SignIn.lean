import Backoffice.Proofs.Client.Reach

namespace Backoffice

open Web (Request)

def Call.granted (backend : Backend) (tr : List Exchange) (c : Call) :
    Except ClientError TokenPair :=
  (c.answer backend tr).bind Console.loginTokens

attribute [local irreducible] Routes.ofBase

theorem Call.granted_ne_ok_of_silent {backend : Backend} (h : ∀ tr r, backend tr r = none)
    {c : Call} {tr : List Exchange} {pair : TokenPair} : c.granted backend tr ≠ .ok pair := by
  cases hr : c.request? with
  | none => simp [granted, answer, hr, Except.bind]
  | some r => simp [granted, answer, hr, h, Except.bind]

namespace Console

variable {backend : Backend} {v : View} {tr : List Exchange} {α : Type}

theorem sendEnvelope_comes (backend : Backend) (ht : v.sight.Timely) (tr : List Exchange)
    (dec : Decoder α) (method url : String) (body : Web.Body) :
    ∃ r v' tr', ComesTo backend (sendEnvelope dec method url body) v tr r v' tr' := by
  obtain ⟨result, v', tr', hc⟩ := request_comes backend v tr ht method url body
  cases result with
  | error e => exact ⟨_, _, _, .bind_error hc⟩
  | ok answer =>
    cases he : envelopeOf dec answer with
    | error e =>
      refine ⟨.error e, v', tr', hc.bind ?_⟩
      simp only [he]
      exact .throw e v' _
    | ok envelope =>
      refine ⟨.ok envelope, v', tr', hc.bind ?_⟩
      simp only [he]
      exact .pure envelope v' _

theorem fetchCurrentUser_comes (backend : Backend) (ht : v.sight.Timely) (tr : List Exchange) :
    ∃ r v' tr', ComesTo backend fetchCurrentUser v tr r v' tr' := by
  obtain ⟨r, v', tr', he⟩ :=
    sendEnvelope_comes backend ht tr AdminUser.decode "GET" v.context.routes.me .empty
  have hr : ComesTo backend (sure (read Context.routes)) v tr (.ok v.context.routes) v tr :=
    (Comes.read Context.routes v tr).sure
  cases r with
  | error e => exact ⟨_, _, _, hr.bind (.bind_error he)⟩
  | ok envelope =>
    rcases hu : envelope.result with m | _ | user
    · refine ⟨.error (.rejected m), v', tr', hr.bind (he.bind ?_)⟩
      simp only [hu]
      exact .throw _ v' tr'
    · refine ⟨.error (.decode .noCurrentUser), v', tr', hr.bind (he.bind ?_)⟩
      simp only [hu]
      exact .throw _ v' tr'
    · refine ⟨.ok (.ofUser user), v', tr', hr.bind (he.bind ?_)⟩
      simp only [hu]
      exact .pure _ v' tr'

def loginCall (routes : Routes) (payload : LoginPayload) : Call :=
  ⟨"POST", routes.login, none, .json payload.toJson⟩

def leftover (granted : Except ClientError TokenPair) (held : Option Credential) :
    Option Credential :=
  if granted.isOk then none else held

theorem leftover_eq_none_iff {granted : Except ClientError TokenPair} {held : Option Credential} :
    leftover granted held = none ↔ held = none ∨ ∃ pair, granted = .ok pair := by
  cases granted <;> simp [leftover, Except.isOk, Except.toBool]

theorem leftover_of_ne {granted : Except ClientError TokenPair} {held : Option Credential}
    (h : leftover granted held ≠ none) : leftover granted held = held := by
  unfold leftover at h ⊢
  split at h
  · exact absurd rfl h
  · next hg => rw [if_neg hg]

theorem tryLogin_comes (backend : Backend) (ht : v.sight.Timely) (tr : List Exchange)
    (payload : LoginPayload) (remember : Bool) :
    ∃ r v' tr', ComesTo backend (tryLogin payload remember) v tr r v' tr' ∧
      ∀ e, r = .error e → v'.sight.credential =
        leftover ((loginCall v.context.routes payload).granted backend tr) v.sight.credential := by
  let call := loginCall v.context.routes payload
  have hr : ComesTo backend (sure (read Context.routes)) v tr (.ok v.context.routes) v tr :=
    (Comes.read Context.routes v tr).sure
  have hs := sendOnce_comes backend call v tr
  cases ha : call.answer backend tr with
  | error e =>
    have hg : call.granted backend tr = .error e := by
      simp only [Call.granted, ha, Except.bind]
    rw [ha] at hs
    refine ⟨_, _, _, hr.bind (.bind_error hs), fun _ _ ↦ ?_⟩
    rw [hg]
    rfl
  | ok answer =>
    have hg : call.granted backend tr = loginTokens answer := by
      simp only [Call.granted, ha, Except.bind]
    rw [ha] at hs
    rw [hg]
    cases hp : loginTokens answer with
    | error e =>
      refine ⟨.error e, v, call.exchange backend tr, hr.bind (hs.bind ?_), fun _ _ ↦ rfl⟩
      simp only [hp]
      exact .throw e v _
    | ok pair =>
      -- The tokens are stored before the user is asked for, and dropped again if that fails.
      let v₁ : View := ⟨v.sight.setCredential pair remember (some payload), v.context⟩
      have hc : ComesTo backend (stored (Profile.setCredential pair remember (some payload))) v
          (call.exchange backend tr) (.ok ()) v₁ (call.exchange backend tr) :=
        .stored (Profile.setCredential_succeeds pair (some payload) (ht remember)).does _
      have ht₁ : v₁.sight.Timely := by
        simpa only [Sight.Timely, v₁, Sight.now_setCredential] using ht
      obtain ⟨r, v₂, tr₂, hf⟩ := fetchCurrentUser_comes backend ht₁ (call.exchange backend tr)
      cases r with
      | ok session =>
        refine ⟨.ok session, v₂, tr₂, hr.bind (hs.bind ?_), fun _ h ↦ by cases h⟩
        simp only [hp]
        exact hc.bind ((Comes.sure hf).bind (.pure session v₂ tr₂))
      | error e =>
        let v₃ : View := ⟨v₂.sight.clearCredential, v₂.context⟩
        refine ⟨.error e, v₃, tr₂, hr.bind (hs.bind ?_), fun _ _ ↦ ?_⟩
        · simp only [hp]
          exact hc.bind ((Comes.sure hf).bind
            ((discardCredential_comes v₂ tr₂).sure.bind (.throw e _ tr₂)))
        · exact Sight.credential_clearCredential _

theorem setStatus_comes (s : SessionStatus) (v : View) (tr : List Exchange) :
    Comes backend (setStatus s) v tr () (settled v s) tr :=
  .modify _ v tr

/-- A login that fails leaves nobody signed in by the status, whatever credential it leaves. -/
theorem loginWith_comes (backend : Backend) (ht : v.sight.Timely) (tr : List Exchange)
    (payload : LoginPayload) (remember : Bool) :
    ∃ r v' tr', Comes backend (loginWith payload remember) v tr r v' tr' ∧
      (r = false → v'.context.status = .unauthenticated ∧ v'.sight.credential =
        leftover ((loginCall v.context.routes payload).granted backend tr) v.sight.credential) := by
  have hl : Comes backend (setStatus .loading) v tr () (settled v .loading) tr :=
    setStatus_comes .loading v tr
  obtain ⟨r, v₁, tr₁, hs, hc⟩ :=
    tryLogin_comes backend (v := settled v .loading) ht tr payload remember
  cases r with
  | error e =>
    refine ⟨false, settled v₁ .unauthenticated, tr₁, hl.bind (Comes.bind hs ?_), fun _ ↦ ?_⟩
    · exact (setStatus_comes .unauthenticated v₁ tr₁).bind (.done false _ tr₁)
    · exact ⟨rfl, hc e rfl⟩
  | ok session =>
    refine ⟨true, settled v₁ (.authenticated session), tr₁, hl.bind (Comes.bind hs ?_), nofun⟩
    exact (setStatus_comes _ v₁ tr₁).bind (.done true _ tr₁)

def loginPayload (v : View) (email password : String) : LoginPayload :=
  ⟨Text.trim email, password,
    .ofHost v.sight.deviceId v.context.hostName v.context.config.appVersion⟩

theorem login_comes (backend : Backend) (ht : v.sight.Timely) (tr : List Exchange)
    (email password : String) (remember : Bool) :
    ∃ r v' tr', ComesTo backend (login email password remember) v tr (.ok r) v' tr' ∧
      (r = false → v'.context.status = .unauthenticated ∧ v'.sight.credential =
        leftover ((loginCall v.context.routes (loginPayload v email password)).granted backend tr)
          v.sight.credential) := by
  have hd : ComesTo backend (stored Profile.deviceId) v tr (.ok v.sight.deviceId)
      ⟨v.sight.identified, v.context⟩ tr :=
    .stored (Profile.deviceId_succeeds v.sight).does tr
  have hi : v.sight.identified.Timely := by rwa [Sight.Timely, Sight.now_identified]
  obtain ⟨r, v', tr', hl, hc⟩ := loginWith_comes backend (v := ⟨v.sight.identified, v.context⟩) hi tr
    (loginPayload v email password) remember
  rw [Sight.credential_identified] at hc
  exact ⟨r, v', tr', hd.bind ((Comes.read _ _ tr).sure.bind hl.sure), hc⟩

theorem fetchCurrentUser_balanced : fetchCurrentUser.run.Balanced [] := by
  refine (read_balanced _).lift.except_bind fun routes ↦ ?_
  refine Task.Balanced.except_bind ?_ fun envelope ↦ ?_
  · refine (request_balanced "GET" routes.me .empty).except_bind fun answer ↦ ?_
    split
    · exact .done _
    · exact .done _
  · split
    · exact .done _
    · exact .done _
    · exact .done _

theorem tryLogin_balanced (payload : LoginPayload) (remember : Bool) :
    (tryLogin payload remember).run.Balanced [] := by
  refine (read_balanced _).lift.except_bind fun routes ↦ ?_
  refine (sendOnce_balanced _ _ _ _).except_bind fun answer ↦ ?_
  split
  · exact .done _
  · refine (stored_balanced _).except_bind fun _ ↦ ?_
    refine fetchCurrentUser_balanced.lift.except_bind fun r ↦ ?_
    split
    · exact .done _
    · exact discardCredential_balanced.lift.except_bind fun _ ↦ .done _

theorem login_balanced (email password : String) (remember : Bool) :
    (login email password remember).run.Balanced [] := by
  refine (stored_balanced _).except_bind fun id ↦ ?_
  refine (read_balanced _).lift.except_bind fun context ↦ ?_
  refine Task.Balanced.lift ((modify_balanced _).bind fun _ ↦ ?_)
  refine (tryLogin_balanced _ remember).bind fun r ↦ ?_
  split
  · exact (modify_balanced _).bind fun _ ↦ .done _
  · exact (modify_balanced _).bind fun _ ↦ .done _

end Console

namespace Workspace

variable {α : Type}

theorem lens_client (n : Nat) : Task.Lens (console n) (putConsole n) where
  part_put := console_putConsole n
  put_part w := by
    have hs : setAt w.sessionStores (w.clients n).sessionStore
        (w.sessionStores (w.clients n).sessionStore) = w.sessionStores := by
      funext m
      by_cases hm : m = (w.clients n).sessionStore
      · rw [hm, setAt_self]
      · rw [setAt_of_ne _ hm]
    have hc : setAt w.clients n (w.clients n) = w.clients := by
      funext m
      by_cases hm : m = n
      · rw [hm, setAt_self]
      · rw [setAt_of_ne _ hm]
    exact congr (congrArg (fun s c ↦ { w with sessionStores := s, clients := c }) hs) hc
  put_put c d w := by
    have hs : ∀ {β : Type} (f : Nat → β) (m : Nat) (a b : β),
        setAt (setAt f m b) m a = setAt f m a := by
      intro β f m a b
      funext k
      by_cases hk : k = m
      · rw [hk, setAt_self, setAt_self]
      · rw [setAt_of_ne _ hk, setAt_of_ne _ hk, setAt_of_ne _ hk]
    simp only [putConsole, setAt_self, hs]

theorem run_inCurrent (backend : Backend) (t : ConsoleM α) (w : Workspace) (tr : List Exchange) :
    (inCurrent t).run backend w tr =
      let r := t.run backend (w.console w.current) tr
      ⟨r.result, w.putConsole w.current r.state, r.trace⟩ :=
  Task.run_zoom (lens_client w.current) _ backend t w tr

theorem inCurrent_balanced {t : ConsoleM α} (ht : t.Balanced []) : (inCurrent t).Balanced [] where
  orderly _ := (ht.zoom fun _ _ h ↦ (Prod.mk.inj h).2).orderly

end Workspace

/-- A later world, in which nobody was signed in with a password since. -/
inductive Lapses : World → World → Prop
  | refl (w : World) : Lapses w w
  | run {α : Type} {op : Operation α} {net : Network World} {a : α} {w w' w'' : World} :
      Lapses w w' → net.Serves .expiring → WorkspaceM.Runs net op.task w' a w'' →
      ¬op.SignsIn a → Lapses w w''
  | tick {w w' : World} {s : Workspace} :
      Lapses w w' → w'.1.Ticks .expiring s → Lapses w (s, w'.2)

theorem Workspace.Sound.bare {w : Workspace} (hw : w.Sound .unknown)
    (hn : (w.console w.current).view.sight.credential = none) : w.Sound .bare :=
  ⟨hw.placed, hw.holds.1.of_clock nofun, hn⟩

theorem Lapses.sound {w w' : World} (hl : Lapses w w') (hw : w.1.Sound .bare) :
    w'.1.Sound .bare := by
  induction hl with
  | refl w => exact hw
  | @run α op net a w w' w'' _ hn hr hs ih =>
    have hw' := ih hw
    by_cases hl : op.IsLogin
    · -- A login that fails may store tokens first, so it is not work on a bare client all along.
      have hu : w'.1.Sound .unknown := ⟨hw'.placed, hw'.holds.1.of_clock nofun, trivial⟩
      obtain ⟨⟨hw'', hc⟩, -⟩ := hr.ends (h := .unknown) hn (hl.task_safe nofun nofun hu)
      exact hw''.bare (hc hs hw'.holds.2)
    · have ho := op.task_safe (h := .bare) nofun (fun h ↦ absurd h hl) hw'
      exact (hr.ends (h := .bare) hn ho).1
  | tick _ ht ih => exact (ih hw).tick ht

/-- Nobody sends a token where there is no credential, but to sign in. -/
theorem Lapses.silent {w w' w'' : World} (hw' : Lapses w w') (hw : w.1.Sound .bare) {α : Type}
    {op : Operation α} {net : Network World} {a : α} (hl : ¬op.IsLogin)
    (hn : net.Serves .expiring) (hr : WorkspaceM.Runs net op.task w' a w'') :
    ∃ later, w''.2 = later ++ w'.2 ∧ ∀ e ∈ later, e.request.auth = none := by
  have hs := op.task_safe (h := .bare) nofun (fun h ↦ absurd h hl) (hw'.sound hw)
  obtain ⟨-, later, he, hs⟩ := hr.ends (h := .bare) hn hs
  exact ⟨later, he, fun e hm ↦ hs e hm rfl⟩

theorem Workspace.Sound.after_login {w w' : World} (hw : w.1.Sound .unknown) {backend : Backend}
    {delay : List Exchange → Request → Option Nat} {email password : String} {remember : Bool}
    (hr : WorkspaceM.Runs (backend.network delay)
      (Operation.login email password remember).task w (.ok false) w') :
    let before := (w.1.console w.1.current).view
    let after := (w'.1.console w'.1.current).view
    let call := Console.loginCall before.context.routes (Console.loginPayload before email password)
    after.context.status = .unauthenticated ∧
      after.sight.credential = Console.leftover (call.granted backend w.2) before.sight.credential := by
  intro before after call
  obtain ⟨r, v, tr, hcomes, hfalse⟩ :=
    Console.login_comes backend hw.holds.1.sound.timely w.2 email password remember
  obtain ⟨c, hrun, -, hv⟩ := hcomes.run (w.1.console w.1.current) hw.placed.reliable rfl
  -- A login takes no lock that it does not give back, so in time it does what it does alone.
  obtain ⟨events, m, hm, rfl⟩ := hr
  obtain ⟨hres, hstate⟩ := Machine.eq_of_run_balanced
    (Workspace.inCurrent_balanced (Console.login_balanced email password remember)) hm
  rw [Workspace.run_inCurrent, hrun] at hres hstate
  have hafter : after = v := by
    simp only [after, hstate, ← hv]
    exact congrArg Console.view (Workspace.console_putConsole _ c w.1)
  rw [hafter]
  apply hfalse
  cases hres
  rfl

/-- A login that fails leaves the status signed out. The credential is gone just if there was none or
the backend had granted tokens; else the one that was there stays. Once it is gone, no credential comes
and no other operation sends a token until somebody signs in. -/
theorem Reached.login_of_false {w w' : World} (hw : Reached .expiring w) (backend : Backend)
    (delay : List Exchange → Request → Option Nat) (email password : String) (remember : Bool)
    (hr : WorkspaceM.Runs (backend.network delay)
      (Operation.login email password remember).task w (.ok false) w') :
    let before := w.1.console w.1.current
    let after := w'.1.console w'.1.current
    let call := Console.loginCall before.context.routes
      (Console.loginPayload before.view email password)
    let held := (Profile.credential before.profile).1
    let left := (Profile.credential after.profile).1
    (Console.status.run backend after w'.2).result = .unauthenticated ∧
    (left = none ↔ held = none ∨ ∃ pair, call.granted backend w.2 = .ok pair) ∧
    (left ≠ none → left = held) ∧
    (left = none → ∀ w₁, Lapses w' w₁ →
      (Profile.credential (w₁.1.console w₁.1.current).profile).1 = none ∧
      ∀ (α : Type) (op : Operation α) (net : Network World) (a : α) (w₂ : World),
        ¬op.IsLogin → net.Serves .expiring → WorkspaceM.Runs net op.task w₁ a w₂ →
        ∃ later, w₂.2 = later ++ w₁.2 ∧ ∀ e ∈ later, e.request.auth = none) := by
  intro before after call held left
  have hw' := hw.run (backend.network_serves .expiring delay) hr
  have hs := Reached.sound (h := .unknown) hw nofun nofun
  have hs' := Reached.sound (h := .unknown) hw' nofun nofun
  have hheld : held = before.view.sight.credential := Profile.credential_eq hs.placed.reliable
  have hleft : left = after.view.sight.credential := Profile.credential_eq hs'.placed.reliable
  obtain ⟨hstatus, hl⟩ := hs.after_login hr
  have hl : left = Console.leftover (call.granted backend w.2) held := by
    rw [hleft, hheld]
    exact hl
  refine ⟨?_, ?_, fun hne ↦ ?_, fun hn w₁ h₁ ↦ ?_⟩
  · change after.context.observed.status = _
    have hstatus : after.context.status = .unauthenticated := hstatus
    simp [Context.observed, hstatus, SessionStatus.isAuthenticated, SessionStatus.session?]
  · rw [hl]
    exact Console.leftover_eq_none_iff
  · rw [hl] at hne ⊢
    exact Console.leftover_of_ne hne
  · have hb : w'.1.Sound .bare := hs'.bare (hleft ▸ hn)
    refine ⟨?_, fun α op net a w₂ hlogin hnet hrun ↦ h₁.silent hb hlogin hnet hrun⟩
    rw [Profile.credential_eq (h₁.sound hb).placed.reliable]
    exact (h₁.sound hb).holds.2

/-- Who is signed in and fails to sign in again, for the backend is silent, keeps the credential. -/
theorem Reached.login_of_false_keeps_credential :
    ∃ w w' : World, Reached .expiring w ∧
      (Console.status.run openBackend (w.1.console w.1.current) []).result.isAuthenticated ∧
      WorkspaceM.Runs (silentBackend.network fun _ _ ↦ none)
        (Operation.login "ada@example.com" "wrong" false).task w (.ok false) w' ∧
      (Console.status.run silentBackend (w'.1.console w'.1.current) w'.2).result = .unauthenticated ∧
      (Profile.credential (w'.1.console w'.1.current).profile).1 = some ⟨"a1", none, .days 30⟩ := by
  obtain ⟨w, w', hw, ha, hc, hr⟩ := exists_signed_in_and_rejected .expiring
  obtain ⟨hs, hn, hl, -⟩ := hw.login_of_false silentBackend _ _ _ _ hr
  have hleft : (Profile.credential (w'.1.console w'.1.current).profile).1 ≠ none := by
    rw [Ne, hn, hc]
    intro hq
    rcases hq with h | ⟨pair, h⟩
    · cases h
    · exact Call.granted_ne_ok_of_silent (fun _ _ ↦ rfl) h
  exact ⟨w, w', hw, ha, hr, hs, (hl hleft).trans hc⟩

end Backoffice
