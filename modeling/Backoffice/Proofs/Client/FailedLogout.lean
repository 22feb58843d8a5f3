import Backoffice.Proofs.Client.Reset
import Backoffice.Proofs.Storage.Refusal

namespace Backoffice

theorem Context.observed_observed (x : Context) : x.observed.observed = x.observed := by
  by_cases h : x.status.isAuthenticated && x.seen != x.signOuts
  · have ho : x.observed = { x with status := .unauthenticated, seen := x.signOuts } := if_pos h
    rw [ho]
    rfl
  · have ho : x.observed = x := if_neg h
    rw [ho, ho]

namespace Profile

variable {α : Type} {p p' : Profile} {e : StorageError}

theorem sight_withoutCookie_of_absent {name : String} (h : p.cookies.get? name = none) :
    (p.withoutCookie name).sight = p.sight := by
  refine congrArg (fun cookies ↦ { p.sight with cookies }) (funext fun n ↦ ?_)
  have hn : (p.withoutCookie name).cookies.get? n = p.cookies.get? n := by
    rw [get?_withoutCookie]
    split
    · next hn => rw [hn, h]
    · rfl
  rw [hn]
  rfl

def tokenRemoval (p : Profile) : Except StorageError Unit :=
  (p.host.durable.remove (cookieKey accessCookie)).1

/-- What clearing leaves where the store refuses a call. The access token is gone, unless the removal of that very
token was refused: then no more is gone than the token of the session. -/
inductive Remnant (p p' : Profile) (e : StorageError) : Prop
  | kept (h : p.tokenRemoval = .error e)
      (he : p' = (p.withoutCookie accessCookie).later p.host.durable.entries)
  | lost (h : p.tokenRemoval = .ok ()) (ht : p'.Tokenless)

theorem removeCookie_eq (name : String) (p : Profile) :
    removeCookie name p = durably (·.remove (cookieKey name)) (p.withoutCookie name) := rfl

theorem removeCookie_tokenless {a : Unit} (h : removeCookie accessCookie p = (.ok a, p')) :
    p.tokenRemoval = .ok () ∧ p'.Tokenless := by
  have hd := removeCookie_drops h
  refine ⟨congrArg Prod.fst (removeCookie_eq accessCookie p ▸ h), ?_, ?_⟩
  · rw [hd.cookies, Table.get?_without_of_mem _ List.mem_cons_self]
  · rw [hd.entries, Table.get?_without_of_mem _ List.mem_cons_self]

theorem Tokenless.sheds {act : StateM Profile α} {a : α} (hp : p.Tokenless) (hs : Sheds act)
    (h : act p = (a, p')) : p'.Tokenless := by
  have hw := hs p
  rw [h] at hw
  exact hp.within hw

theorem clearCredential_rest_sheds :
    Sheds (removeCookie refreshCookie >>= fun _ ↦ localRemove rememberKey).run :=
  (removeCookie_sheds _).andThen fun _ ↦ remove_sheds _

theorem clearCredential_remnant (h : clearCredential p = (.error e, p')) : Remnant p p' e := by
  rcases bind_eq_error h with h | ⟨⟨⟩, p₁, h₁, h⟩
  -- The cookie of the session is dropped before the store is asked, and stays so.
  · obtain ⟨hr, he⟩ := durably_eq_error (p := p.withoutCookie accessCookie) (removeCookie_eq accessCookie p ▸ h)
    exact .kept hr he
  · obtain ⟨hr, ht⟩ := removeCookie_tokenless h₁
    exact .lost hr (ht.sheds clearCredential_rest_sheds h)

theorem clearRemembered_sheds : Sheds clearRemembered.run :=
  (remove_sheds _).andThen fun _ ↦ (remove_sheds _).andThen fun _ _ ↦ ⟨fun _ _ h ↦ h, fun _ _ h ↦ h⟩

theorem clearRemembered_remnant {p₁ : Profile} (h₁ : clearCredential p = (.ok (), p₁))
    (h : clearRemembered p₁ = (.error e, p')) : Remnant p p' e := by
  obtain ⟨⟨⟩, p₀, h₀, h₁⟩ := bind_eq_ok h₁
  obtain ⟨hr, ht⟩ := removeCookie_tokenless h₀
  have ht₁ := ht.sheds clearCredential_rest_sheds h₁
  exact .lost hr (ht₁.sheds clearRemembered_sheds h)

/-- Where the token was one of the session alone, it is gone in any case. -/
theorem Remnant.tokenless (h : Remnant p p' e)
    (ha : p.tokenRemoval = .ok () ∨ p.host.durable.entries.get? (cookieKey accessCookie) = none) :
    p'.Tokenless := by
  cases h with
  | lost _ ht => exact ht
  | kept h he =>
    rcases ha with ha | ha
    · cases h.symm.trans ha
    · subst he
      exact ⟨by simp [later, withoutCookie, Table.get?_erase], ha⟩

end Profile

/-- Signing out that fails leaves a remnant of the credential, and the status as it reads. -/
theorem Console.signOut_fails (c : Console) :
    signOut.run.AtOnce (fun r c' ↦ ∀ e, r = .error e → c'.context = c.context.observed ∧
      ∃ refusal, e = .storage refusal ∧ c.profile.Remnant c'.profile refusal) c := by
  have hc : current.AtOnce (fun _ c' ↦ c' = ⟨c.profile, c.context.observed⟩) c := rfl
  refine hc.lift_bind ?_
  rintro _ _ rfl
  -- The status is set last, so what fails before leaves it as it was read.
  refine stored_bind_atOnce (fun _ p hp ↦ stored_bind_atOnce (fun _ p' hp' ↦ ?_) fun e p' hp' ↦ ?_)
    fun e p hp ↦ ?_
  · exact Task.Safe.lift fun _ ↦ nofun
  · rintro _ ⟨⟩
    exact ⟨rfl, e, rfl, Profile.clearRemembered_remnant hp hp'⟩
  · rintro _ ⟨⟩
    exact ⟨rfl, e, rfl, Profile.clearCredential_remnant hp⟩

/-- A logout that fails sends nothing, and hands the client back with the status as it read before. The credential
is gone by then, unless the store refused to remove the access token itself. Where it did refuse that, the profile
shows what it showed before, but for a token of the session. -/
theorem WorkspaceM.Runs.after_failed_logout {net : Network World} {w w' : World} {e : ClientError}
    (hr : WorkspaceM.Runs net Operation.logout.task w (.error e) w') :
    let before := w.1.console w.1.current
    let after := w'.1.console w'.1.current
    let inSession := before.profile.cookies.get? Profile.accessCookie
    let entry := before.profile.host.durable.entries.get? (Profile.cookieKey Profile.accessCookie)
    w'.2 = w.2 ∧ w'.1.current = w.1.current ∧ after.context = before.context.observed ∧
    (∀ backend, (Console.status.run backend after w'.2).result =
      (Console.status.run backend before w.2).result) ∧
    ∃ refusal, e = .storage refusal ∧
      (before.profile.tokenRemoval = .ok () ∨ before.profile.tokenRemoval = .error refusal) ∧
      (before.profile.tokenRemoval = .ok () ∨ entry = none → (Profile.credential after.profile).1 = none) ∧
      (before.profile.tokenRemoval = .error refusal →
        after.profile.sight = (before.profile.withoutCookie Profile.accessCookie).sight ∧
        (inSession = none → after.profile.sight = before.profile.sight)) := by
  obtain ⟨events, m, hm, rfl⟩ := hr
  obtain ⟨⟨herr, -⟩, htr⟩ := (Workspace.logout_cases (Console.signOut_fails _)).run hm
  obtain ⟨hn, hx, refusal, rfl, hq⟩ := herr e rfl
  intro before after inSession entry
  refine ⟨htr, hn, hx, fun _ ↦ ?_, refusal, rfl, ?_, fun ha ↦ ?_, fun ha ↦ ?_⟩
  · change after.context.observed.status = before.context.observed.status
    rw [hx, Context.observed_observed]
  · cases hq with
    | kept h _ => exact .inr h
    | lost h _ => exact .inl h
  · have ht := hq.tokenless ha
    exact (Profile.credential_of_absent ht.cookie ht.entry).1
  · cases hq with
    | lost h _ => cases h.symm.trans ha
    | kept _ he =>
      have hs : after.profile.sight = (before.profile.withoutCookie Profile.accessCookie).sight :=
        (congrArg Profile.sight he).trans rfl
      exact ⟨hs, fun hc ↦ hs.trans (Profile.sight_withoutCookie_of_absent hc)⟩

theorem WorkspaceM.Runs.exists_error {net : Network World} {events : Nat} {α ε : Type}
    {t : WorkspaceM (Except ε α)} {w : World}
    (h : (Machine.run net events t.logged w).1.map Except.toOption = some none) :
    ∃ e, WorkspaceM.Runs net t w (.error e) (Machine.run net events t.logged w).2.state := by
  obtain ⟨r, hr, ha⟩ := Option.map_eq_some_iff.mp h
  cases r with
  | ok a => cases ha
  | error e => exact ⟨e, events, _, Prod.ext hr rfl, rfl⟩

/-- A store that refuses to remove the choice to be remembered leaves somebody signed in without a credential. -/
theorem WorkspaceM.Runs.after_failed_logout_of_remembered :
    let durable : Durable :=
      ⟨.memory, [], 0, fun _ c ↦ c = .remove (Profile.localKey Profile.rememberKey)⟩
    let host : Host := ⟨durable, ⟨0⟩, fun _ ↦ ⟨List.replicate 32 0, rfl⟩, 0⟩
    let config := Config.ofBase "http://h"
    let net : Network World := openBackend.network fun _ _ ↦ none
    ∃ w₁ w w' : World, ∃ e,
      WorkspaceM.Runs net (Workspace.start config "host").run (.initial host config "host", [])
        (.ok .unauthenticated) w₁ ∧
      WorkspaceM.Runs net (Operation.login "ada@example.com" "s3cret" true).task w₁ (.ok true) w ∧
      WorkspaceM.Runs net Operation.logout.task w (.error e) w' ∧
      (Profile.credential (w.1.console w.1.current).profile).1 = some ⟨"a1", none, .days 30⟩ ∧
      (Console.status.run openBackend (w'.1.console w'.1.current) w'.2).result.isAuthenticated ∧
      (Profile.credential (w'.1.console w'.1.current).profile).1 = none := by
  intro durable host config net
  let start := (Workspace.start config "host").run
  let login := Operation.login "ada@example.com" "s3cret" true
  let w₀ : World := (.initial host config "host", [])
  let w₁ := (Machine.run net 9 start.logged w₀).2.state
  let w := (Machine.run net 9 login.task.logged w₁).2.state
  have h₀ : WorkspaceM.Runs net start w₀ (.ok .unauthenticated) w₁ := .of_toOption (by decide +kernel)
  have h₁ : WorkspaceM.Runs net login.task w₁ (.ok true) w := .of_toOption (by decide +kernel)
  obtain ⟨e, h₂⟩ : ∃ e, WorkspaceM.Runs net Operation.logout.task w (.error e)
      (Machine.run net 9 Operation.logout.task.logged w).2.state :=
    exists_error (by decide +kernel)
  obtain ⟨-, -, -, hs, -, -, -, hn, -⟩ := h₂.after_failed_logout
  refine ⟨w₁, w, _, e, h₀, h₁, h₂, by decide +kernel, ?_, hn (.inl (by decide +kernel))⟩
  rw [hs]
  decide +kernel

end Backoffice
