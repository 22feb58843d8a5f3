import Backoffice.Proofs.Client.Reach
import Backoffice.Proofs.Storage.Clearing
import Backoffice.Proofs.Task.AtOnce

namespace Backoffice

variable {α : Type}

namespace Profile

structure Tokenless (p : Profile) : Prop where
  cookie : p.cookies.get? accessCookie = none
  entry : p.host.durable.entries.get? (cookieKey accessCookie) = none

theorem Tokenless.within {p p' : Profile} (hp : p.Tokenless) (h : p'.Within p) : p'.Tokenless where
  cookie := Option.eq_none_iff_forall_ne_some.mpr fun v hv ↦ by
    cases hp.cookie.symm.trans (h.cookies _ v hv)
  entry := Option.eq_none_iff_forall_ne_some.mpr fun v hv ↦ by
    cases hp.entry.symm.trans (h.entries _ v hv)

theorem Tokenless.alike {p p' : Profile} (hp : p.Tokenless) (h : Alike p p') : p'.Tokenless where
  cookie := by rw [h.cookies, Table.without_nil, hp.cookie]
  entry := by rw [h.entries, Table.without_nil, hp.entry]

def tokenCookies : List String := [accessCookie, refreshCookie]

def signInKeys : List String :=
  [cookieKey accessCookie, cookieKey refreshCookie, localKey rememberKey, localKey emailKey]

abbrev Forgets (p p' : Profile) : Prop := Drops tokenCookies signInKeys [loginKey] p p'

theorem Forgets.tokenless {p p' : Profile} (h : Forgets p p') : p'.Tokenless where
  cookie := h.cookies ▸ Table.get?_without_of_mem _ (by decide)
  entry := h.entries ▸ Table.get?_without_of_mem _ (by decide)

end Profile

theorem Context.status_observed {x : Context} (h : x.status = .unauthenticated) :
    x.observed.status = .unauthenticated := by
  simp [observed, h, SessionStatus.isAuthenticated, SessionStatus.session?]

/-- What a client knows that nobody has signed in to: no list is loaded, there are no business units, no page
of users and no user is selected. -/
def Context.signedOut (config : Config) (hostName : String) : Context where
  config
  hostName
  signOuts := 0
  status := .unauthenticated
  seen := 0
  countries := ⟨⟨[], false, none, false⟩, 0⟩
  clients := ⟨⟨[], false, none, false⟩, 0⟩
  roles := ⟨⟨[], false, none, false⟩, 0⟩
  units := []
  directory := ⟨none, none, false, none, ⟨none, none, none, none, none⟩⟩

namespace Console

open Profile (Forgets Alike)

variable {β : Type} {c : Console} {Q : Except ClientError β → Console → Prop}

theorem stored_bind_atOnce {act : ProfileM α} {f : α → Action β}
    (hf : ∀ a p, act c.profile = (.ok a, p) → (f a).run.AtOnce Q ⟨p, c.context⟩)
    (he : ∀ e p, act c.profile = (.error e, p) → Q (.error (.storage e)) ⟨p, c.context⟩) :
    (stored act >>= f).run.AtOnce Q c := by
  apply Task.Safe.except_bind (R := fun r c' ↦ ∃ r' p, act c.profile = (r', p) ∧
    c' = ⟨p, c.context⟩ ∧ r = r'.mapError ClientError.storage)
  · refine Task.Safe.lift_bind (R := fun r c' ↦ ∃ p, act c.profile = (r, p) ∧ c' = ⟨p, c.context⟩)
      ⟨_, rfl, rfl⟩ ?_
    rintro r _ ⟨p, hp, rfl⟩
    cases r with
    | ok a => exact ⟨_, p, hp, rfl, rfl⟩
    | error e => exact ⟨_, p, hp, rfl, rfl⟩
  · rintro a _ ⟨r, p, hp, rfl, hr⟩
    cases r with
    | ok b =>
      cases hr
      exact hf a p hp
    | error e => cases hr
  · rintro e _ ⟨r, p, hp, rfl, hr⟩
    cases r with
    | ok b => cases hr
    | error e' =>
      cases hr
      exact he e' p hp

/-- Signing out never waits. What it leaves where it succeeds does not depend on what was there. -/
theorem signOut_atOnce (c : Console) :
    signOut.run.AtOnce (fun r c' ↦ r = .ok () → Forgets c.profile c'.profile ∧
      c'.context.config = c.context.config ∧ c'.context.hostName = c.context.hostName) c := by
  have hc : current.AtOnce (fun _ c' ↦ c' = ⟨c.profile, c.context.observed⟩) c := rfl
  refine hc.lift_bind ?_
  rintro _ _ rfl
  refine stored_bind_atOnce (fun _ p hp ↦ ?_) fun _ _ _ ↦ nofun
  refine stored_bind_atOnce (fun _ p' hp' ↦ ?_) fun _ _ _ ↦ nofun
  have hd := (Profile.clearCredential_drops hp).trans (Profile.clearRemembered_drops hp')
  refine Task.Safe.lift (Q := _) fun _ ↦ ⟨⟨hd.cookies, ?_, hd.session⟩, ?_⟩
  · rw [hd.entries]
    exact Table.without_congr _ fun k ↦ by grind [Profile.signInKeys]
  · exact c.context.observed_config

theorem settled_atOnce (hp : c.profile.Tokenless) :
    bootstrap.settled.AtOnce (fun r c' ↦ r = .unauthenticated ∧ Alike c.profile c'.profile ∧
      c'.context = c.context) c := by
  obtain ⟨hn, ha⟩ := Profile.credential_of_absent hp.cookie hp.entry
  have ho : (onProfile Profile.credential).AtOnce
      (fun r c' ↦ r = none ∧ c' = ⟨(Profile.credential c.profile).2, c.context⟩) c := ⟨hn, rfl⟩
  refine Task.Safe.bind ho ?_
  rintro _ _ ⟨rfl, rfl⟩
  exact ⟨rfl, ha, rfl⟩

theorem bootstrap_atOnce (hp : c.profile.Tokenless) :
    bootstrap.AtOnce (fun r c' ↦ r = .unauthenticated ∧ Alike c.profile c'.profile ∧
      c'.context = (settled c.view .unauthenticated).context) c := by
  let c₁ : Console := ⟨c.profile, (settled c.view .bootstrapping).context⟩
  have hs : (setStatus .bootstrapping).AtOnce (fun _ c' ↦ c' = c₁) c := rfl
  refine Task.Safe.bind hs ?_
  rintro _ _ rfl
  refine (settled_atOnce (c := c₁) hp).bind ?_
  rintro _ c' ⟨rfl, ha, hc⟩
  refine ⟨rfl, ha, ?_⟩
  simp only [settled, view, hc, c₁]

theorem reload_atOnce (hp : c.profile.Tokenless) :
    reload.AtOnce (fun _ c' ↦ Alike c.profile c'.profile ∧
      c'.context = .signedOut c.context.config c.context.hostName) c :=
  (bootstrap_atOnce (c := ⟨c.profile, .fresh c.context.config c.context.hostName⟩) hp).mono
    fun _ _ h ↦ h.2

/-- A client over a store that has no token starts signed out. It starts unless the store refuses a call
while the profile is opened. -/
theorem start_atOnce (hp : c.profile.Tokenless) :
    start.run.AtOnce (fun r c' ↦ (r = .ok .unauthenticated ∧ c'.profile.Tokenless ∧
      c'.context.status = .unauthenticated) ∨ (∃ e, r = .error (.storage e)) ∧ ¬c.Reliable) c := by
  refine stored_bind_atOnce (fun _ p he ↦ ?_) fun e p he ↦ ?_
  · have hw : p.Within c.profile := by
      have hw := Profile.purge_sheds c.profile
      rwa [show Profile.purge.run c.profile = (.ok (), p) from he] at hw
    refine Task.Safe.lift ((bootstrap_atOnce (c := ⟨p, c.context⟩) (hp.within hw)).mono ?_)
    rintro _ c' ⟨rfl, ha, hc⟩
    exact .inl ⟨rfl, (hp.within hw).alike ha, by rw [hc]; rfl⟩
  · refine .inr ⟨⟨e, rfl⟩, fun hr ↦ ?_⟩
    obtain ⟨p', hp', -⟩ := (Profile.purge_succeeds c.profile.sight).total hr rfl
    cases he.symm.trans hp'

end Console

namespace Workspace

variable {w : Workspace}

theorem inClient_atOnce {t : ConsoleM α} {n : Nat} {Q : α → Console → Prop}
    (h : t.AtOnce Q (w.console n)) : (inClient n t).AtOnce (fun a w' ↦ Q a (w'.console n)) w :=
  h.zoom (console_putConsole n)

theorem inClient_atOnce_beside {t : ConsoleM α} {n : Nat} {Q : α → Console → Prop}
    (h : t.AtOnce Q (w.console n)) :
    (inClient n t).AtOnce (fun a w' ↦ Q a (w'.console n) ∧ w'.Beside w) w := by
  have hz : Task.Zooms (console n) (putConsole n) (·.Beside w) (.atOnce (σ := Console)) .atOnce :=
    ⟨console_putConsole n, fun c _ hw ↦ hw.putConsole n c, fun h _ ↦ h, fun h _ _ _ ↦ h.elim, id⟩
  exact Task.Safe.zoom hz h ⟨rfl, rfl, rfl, fun _ ↦ rfl⟩

/-- Where signing out fails, the current client stays, as that left it. Where it succeeds, the current client
knows nothing then and its profile forgot who was there. -/
theorem logout_cases {R : ClientError → Console → Prop}
    (hR : Console.signOut.run.AtOnce (fun r c ↦ ∀ e, r = .error e → R e c) (w.console w.current)) :
    logout.run.AtOnce (fun r w' ↦
      let before := w.console w.current
      let after := w'.console w'.current
      (∀ e, r = .error e → w'.current = w.current ∧ R e after) ∧
      (r = .ok () → Profile.Forgets before.profile after.profile ∧
        after.context = .signedOut before.context.config before.context.hostName)) w := by
  refine read_bind (modify_bind ?_)
  have hs := inClient_atOnce_beside (w := { w with openForm := none })
    ((Console.signOut_atOnce (w.console w.current)).and hR)
  refine Task.Safe.lift_bind hs fun r w₁ hq ↦ ?_
  obtain ⟨⟨hok, herr⟩, hb⟩ := hq
  have hn : w₁.current = w.current := hb.current
  cases r with
  | error e =>
    rw [← hn] at herr
    exact ⟨fun e' he ↦ ⟨hn, herr e' he⟩, nofun⟩
  | ok _ =>
    obtain ⟨hf, hc, hh⟩ := hok rfl
    let seat := w₁.clients w.current
    let w₂ := w₁.withClient seat.sessionStore seat.context
    have he : w₂.console w₁.next = w₁.console w.current := console_withClient _ _ _
    have ht : (w₂.console w₁.next).profile.Tokenless := he ▸ hf.tokenless
    refine read_bind (addClient_bind ?_)
    refine Task.Safe.lift_bind (inClient_atOnce (Console.reload_atOnce ht)) fun _ w₃ hq ↦ ⟨nofun, fun _ ↦ ?_⟩
    rw [he, hc, hh] at hq
    obtain ⟨ha, hx⟩ := hq
    exact ⟨hf.trans ha, hx⟩

theorem logout_atOnce (w : Workspace) :
    logout.run.AtOnce (fun r w' ↦ r = .ok () →
      let before := w.console w.current
      let after := w'.console w'.current
      Profile.Forgets before.profile after.profile ∧
        after.context = .signedOut before.context.config before.context.hostName) w := by
  have hs : Console.signOut.run.AtOnce (fun r _ ↦ ∀ e, r = .error e → True) (w.console w.current) :=
    (Console.signOut_atOnce _).mono fun _ _ _ _ _ ↦ trivial
  exact (logout_cases (R := fun _ _ ↦ True) hs).mono fun _ _ h ↦ h.2

theorem start_atOnce (config : Config) (hostName : String)
    (he : w.host.durable.entries.get? (Profile.cookieKey Profile.accessCookie) = none)
    (hf : w.sessionStores w.next = ⟨[], []⟩) :
    (start config hostName).run.AtOnce (fun r w' ↦
      (r = .ok .unauthenticated ∧ (w'.console w'.current).profile.Tokenless ∧
        (w'.console w'.current).context.status = .unauthenticated) ∨
      (∃ e, r = .error (.storage e)) ∧ ¬w.host.durable.Reliable) w := by
  have hc := console_withFresh config hostName hf
  have ht : ((w.withFresh config hostName).console (w.next + 1)).profile.Tokenless := by
    rw [hc]
    exact ⟨rfl, he⟩
  have hs := inClient_atOnce (Console.start_atOnce ht)
  rw [hc] at hs
  refine allot_bind (addClient_bind (Task.Safe.lift_bind hs ?_))
  rintro r w₃ (⟨rfl, hp, hs⟩ | ⟨⟨e, rfl⟩, hr⟩)
  · exact .inl ⟨rfl, hp, hs⟩
  · exact .inr ⟨⟨e, rfl⟩, hr⟩

end Workspace

theorem exists_signed_in_and_out (k : Clock) :
    ∃ w w' : World, Reached k w ∧
      (Profile.credential (w.1.console w.1.current).profile).1 = some ⟨"a1", none, .days 30⟩ ∧
      (w.1.console w.1.current).profile.host.durable.entries.get? (Profile.localKey "theme") =
        some "dark" ∧
      WorkspaceM.Runs (openBackend.network fun _ _ ↦ none) Operation.logout.task w (.ok ()) w' := by
  let durable : Durable := ⟨.memory, [(Profile.localKey "theme", "dark")], 0, fun _ _ ↦ false⟩
  let host : Host := ⟨durable, ⟨0⟩, fun _ ↦ ⟨List.replicate 32 0, rfl⟩, 0⟩
  let config := Config.ofBase "http://h"
  let net : Network World := openBackend.network fun _ _ ↦ none
  have hn : net.Serves k := openBackend.network_serves k _
  let start := (Workspace.start config "host").run
  let login := Operation.login "ada@example.com" "s3cret" true
  let w₀ : World := (.initial host config "host", [])
  let w₁ := (Machine.run net 9 start.logged w₀).2.state
  let w₂ := (Machine.run net 9 login.task.logged w₁).2.state
  let w₃ := (Machine.run net 9 Operation.logout.task.logged w₂).2.state
  have h₁ : WorkspaceM.Runs net start w₀ (.ok .unauthenticated) w₁ := .of_toOption (by decide +kernel)
  have h₂ : WorkspaceM.Runs net login.task w₁ (.ok true) w₂ := .of_toOption (by decide +kernel)
  have h₃ : WorkspaceM.Runs net Operation.logout.task w₂ (.ok ()) w₃ :=
    .of_toOption (by decide +kernel)
  have ht : host.Timely := fun remember ↦ by cases remember <;> decide
  have hr : Reached k w₂ := .run (.start ⟨by decide, fun _ _ _ ↦ rfl⟩ ht hn h₁) hn h₂
  exact ⟨w₂, w₃, hr, by decide +kernel, by decide +kernel, h₃⟩

/-- A logout that succeeds sends nothing and is followed by a client that knows nothing but where it runs.
Nobody is signed in there, and what the sign-in form fills in again is gone. Of the durable entries just
those that signing in leaves are gone. A client that is started over them, at any time and with any
backend, sends nothing and is signed out; only a store that refuses a call can keep it from starting. -/
theorem WorkspaceM.Runs.after_logout {net : Network World} {w w' : World}
    (hr : WorkspaceM.Runs net Operation.logout.task w (.ok ()) w') :
    let before := w.1.console w.1.current
    let after := w'.1.console w'.1.current
    let host := after.profile.host
    w'.2 = w.2 ∧
    after.context = .signedOut before.context.config before.context.hostName ∧
    (∀ backend, (Console.status.run backend after w'.2).result = .unauthenticated) ∧
    (Profile.credential after.profile).1 = none ∧
    (Profile.rememberMe after.profile).1 = false ∧
    (Profile.savedEmail after.profile).1 = none ∧
    (Profile.lastLogin after.profile).1 = none ∧
    host.durable.entries = before.profile.host.durable.entries.without Profile.signInKeys ∧
    ∀ (now : Time.Instant) (config : Config) (hostName : String) (net : Network World),
      let again := (Workspace.start config hostName).run
      let new : World := (.initial { host with now } config hostName, [])
      (∃ r w₁, WorkspaceM.Runs net again new r w₁) ∧
      ∀ r w₁, WorkspaceM.Runs net again new r w₁ → w₁.2 = [] ∧
        (r = .ok .unauthenticated ∧
            (Profile.credential (w₁.1.console w₁.1.current).profile).1 = none ∧
            (∀ backend, (Console.status.run backend (w₁.1.console w₁.1.current) []).result =
              .unauthenticated) ∨
          (∃ e, r = .error (.storage e)) ∧ ¬host.durable.Reliable) := by
  obtain ⟨events, m, hm, rfl⟩ := hr
  obtain ⟨hq, htr⟩ := (Workspace.logout_atOnce w.1).run hm
  obtain ⟨hf, hx⟩ := hq rfl
  have ht := hf.tokenless
  intro before after host
  refine ⟨htr, hx, fun _ ↦ Context.status_observed ?_, (Profile.credential_of_absent ht.cookie ht.entry).1,
    Profile.rememberMe_of_absent ?_, Profile.savedEmail_of_absent ?_, Profile.lastLogin_of_absent ?_,
    hf.entries, ?_⟩
  · rw [hx]
    rfl
  · exact hf.entries ▸ Table.get?_without_of_mem _ (by decide)
  · exact hf.entries ▸ Table.get?_without_of_mem _ (by decide)
  · exact hf.session ▸ Table.get?_without_of_mem _ (by decide)
  · intro now config hostName net again new
    have hs : again.AtOnce _ new.1 := Workspace.start_atOnce config hostName ht.entry rfl
    refine ⟨?_, ?_⟩
    · obtain ⟨r, m₁, h₁⟩ := hs.exists_run net []
      exact ⟨r, m₁.state, 0, m₁, h₁, rfl⟩
    · rintro r w₁ ⟨events₁, m₁, h₁, rfl⟩
      obtain ⟨hq₁, htr₁⟩ := hs.run h₁
      refine ⟨htr₁, hq₁.imp (fun ⟨hr, hp, hst⟩ ↦ ⟨hr, ?_, fun _ ↦ ?_⟩) id⟩
      · exact (Profile.credential_of_absent hp.cookie hp.entry).1
      · exact Context.status_observed hst

/-- Signing out ends what signing in began, and leaves the entry of another program. -/
theorem WorkspaceM.Runs.after_logout_of_remembered :
    ∃ w w' : World, Reached .expiring w ∧
      (Profile.credential (w.1.console w.1.current).profile).1 = some ⟨"a1", none, .days 30⟩ ∧
      WorkspaceM.Runs (openBackend.network fun _ _ ↦ none) Operation.logout.task w (.ok ()) w' ∧
      (Profile.credential (w'.1.console w'.1.current).profile).1 = none ∧
      (w'.1.console w'.1.current).profile.host.durable.entries.get? (Profile.localKey "theme") =
        some "dark" := by
  obtain ⟨w, w', hw, hc, ht, hr⟩ := exists_signed_in_and_out .expiring
  obtain ⟨-, -, -, hn, -, -, -, he, -⟩ := hr.after_logout
  refine ⟨w, w', hw, hc, hr, hn, ?_⟩
  rw [he, Table.get?_without, if_neg (by decide), ht]

end Backoffice
