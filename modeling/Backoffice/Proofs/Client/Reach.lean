import Backoffice.Proofs.Client.Workspace

namespace Backoffice

open Web (Request)

attribute [local irreducible] Task.Safe

variable {h : Holding} {α : Type}

namespace Operation

open Console Workspace

variable {w : Workspace}

/-- A login leaves somebody signed in, or no credential where there was none. -/
theorem IsLogin.task_safe {op : Operation α} (hl : op.IsLogin) (hh : h ≠ .held) (hb : h ≠ .bare)
    (hw : w.Sound h) :
    op.task.Safe (alone h) (fun a w' ↦ w'.Sound h ∧ (¬op.SignsIn a →
      (w.console w.current).view.sight.credential = none →
        (w'.console w'.current).view.sight.credential = none)) w := by
  cases hl with
  | login email password remember =>
    apply Task.Safe.mono
      (inCurrent_safe hw.placed (login_ensures hh hb hw.holds.1 email password remember))
    intro r w' hq
    obtain ⟨hp, hc, hn⟩ := hq
    refine ⟨⟨hp, hc, .of_ne hh hb⟩, fun hs ↦ hn ?_⟩
    intro hq
    subst hq
    exact hs (.login email password remember)
  | loginWith payload remember =>
    apply Task.Safe.mono
      (inCurrent_safe hw.placed (loginWith_ensures hh hb hw.holds.1.sound payload remember))
    intro r w' hq
    obtain ⟨hp, hc, hn⟩ := hq
    refine ⟨⟨hp, hc, .of_ne hh hb⟩, fun hs ↦ hn ?_⟩
    cases r with
    | false => rfl
    | true => exact absurd (.loginWith payload remember) hs

theorem Chore.safe {t : WorkspaceM α} (hh : h ≠ .held) (ht : Chore (fun _ _ _ ↦ True) t)
    (hw : w.Sound h) : t.Safe (alone h) (fun _ ↦ Workspace.Sound h) w := by
  cases ht with
  | inCurrent ht => exact hw.inCurrent_steady (ht.steady hh)
  | inOpenForm ht => exact hw.inOpenForm (ht.steady hh)
  | openForm mode => exact openUserForm_safe hh hw mode

theorem task_safe (hh : h ≠ .held) (op : Operation α) (hb : op.IsLogin → h ≠ .bare)
    (hw : w.Sound h) : op.task.Safe (alone h) (fun _ ↦ Workspace.Sound h) w := by
  by_cases hs : op.IsSession
  · cases hs with
    | restart => exact restart_safe hh hw
    | login email password remember =>
      have hl := IsLogin.login email password remember
      exact (hl.task_safe hh (hb hl) hw).mono fun _ _ hw' ↦ hw'.1
    | loginWith payload remember =>
      have hl := IsLogin.loginWith payload remember
      exact (hl.task_safe hh (hb hl) hw).mono fun _ _ hw' ↦ hw'.1
    | logout => exact logout_safe hh hw
    | signOut =>
      refine hw.inCurrent ((signOut_ensures hw.holds.1).mono ?_)
      intro r v hq
      obtain ⟨-, hv, hc⟩ := hq
      exact ⟨hv, .of_none hh hc⟩
    | bootstrap => exact hw.inCurrent (bootstrap_ensures hh hw.holds)
  · by_cases hv : op.IsView
    · cases hv with
      | viewForm f => exact hw.inOpenForm (Desk.read_steady f)
    · exact (op.chore .free hs hv fun _ _ ↦ trivial).safe hh hw

end Operation

theorem Network.Serves.keeps {net : Network World} (hn : net.Serves h.clock)
    (tr : List Exchange) : net.Keeps ((Workspace.alone h).logged tr) := by
  intro r w hq hr
  obtain ⟨-, later, hw, hs⟩ := hq
  obtain ⟨ht, he⟩ := hn r w
  refine ⟨⟨trivial, ⟨r, (net r w).1.outcome⟩ :: later, by rw [he, hw]; rfl, ?_⟩, ht⟩
  intro e hm
  rcases List.mem_cons.mp hm with rfl | hm
  · exact hr
  · exact hs e hm

/-- What is safe to run ends as the judgement says, and has sent what its terms allow. -/
theorem WorkspaceM.Runs.ends {net : Network World} {t : WorkspaceM α} {w w' : World} {a : α}
    {Q : α → Workspace → Prop} (hr : WorkspaceM.Runs net t w a w') (hn : net.Serves h.clock)
    (ht : t.Safe (Workspace.alone h) Q w.1) :
    Q a w'.1 ∧ (Workspace.alone h).Sent w.2 w'.2 := by
  obtain ⟨events, m, hm, rfl⟩ := hr
  exact Machine.run_safe (hn.keeps w.2) events (ht.logged w.2) hm

theorem Workspace.Sound.tick {w w' : Workspace} (hw : w.Sound h) (ht : w.Ticks h.clock w') :
    w'.Sound h := by
  have hc : w'.current = w.current := by rw [ht.only_host]
  refine ⟨hw.placed.beside ?_ ?_ ?_, ?_⟩
  · exact ht.reliable hw.placed.reliable
  · exact ht.seated hw.placed.seated
  · exact ht.beside ⟨rfl, rfl, rfl, fun _ ↦ rfl⟩
  · rw [hc]
    exact ht.holds hw.holds

/-- The invariant of all that operations reach. -/
theorem Reached.sound {w : World} (hw : Reached h.clock w) (hh : h ≠ .held) (hb : h ≠ .bare) :
    w.1.Sound h := by
  induction hw with
  | @start host config hostName net status w hr ht hn hrun =>
    refine (hrun.ends hn (Workspace.start_safe hh config hostName hr (fun _ _ ↦ rfl)
      ⟨⟨?_, Nat.le_refl _, fun _ ↦ nofun⟩, .of_ne hh hb⟩)).1
    exact Profile.blank_sound (p := .blank host) ht
  | @run α op net a w w' _ hn hrun ih => exact (hrun.ends hn (op.task_safe hh (fun _ ↦ hb) ih)).1
  | tick _ ht ih => exact ih.tick ht

/-- Whoever is signed in has a credential, whatever was done before, if no cookie has expired. -/
theorem Reached.credential_of_authenticated {w : World} (hw : Reached .sparing w)
    (backend : Backend) (tr : List Exchange) :
    let c := w.1.console w.1.current
    (Console.status.run backend c tr).result.isAuthenticated →
      (Profile.credential c.profile).1.isSome := by
  intro c ha
  have hs := Reached.sound (h := .backed) hw nofun nofun
  have hc := Console.observed_coherent hs.holds.1
  rw [Profile.credential_eq hs.placed.reliable]
  exact hc.credential rfl ha (Console.seen_observed ha)

theorem WorkspaceM.Runs.of_toOption {net : Network World} {events : Nat} {ε : Type}
    {t : WorkspaceM (Except ε α)} {w : World} {a : α}
    (h : (Machine.run net events t.logged w).1.bind Except.toOption = some a) :
    WorkspaceM.Runs net t w (.ok a) (Machine.run net events t.logged w).2.state := by
  obtain ⟨r, hr, ha⟩ := Option.bind_eq_some_iff.mp h
  exact ⟨events, _, Prod.ext (hr.trans (congrArg some (eq_ok_of_toOption ha))) rfl, rfl⟩

def openBackend : Backend := .ofFunction fun r ↦
  if r.auth = none then some ⟨200, "\x7b\"access_token\":\"a1\"\x7d".toUTF8.data.toList⟩
  else some ⟨200, "\x7b\"success\":true,\"data\":\x7b\"id\":\"u1\"\x7d\x7d".toUTF8.data.toList⟩

/-- Somebody signs in over an empty store, then fails to sign in again since the backend is silent. -/
theorem exists_signed_in_and_rejected (k : Clock) :
    ∃ w w' : World, Reached k w ∧
      (Console.status.run openBackend (w.1.console w.1.current) []).result.isAuthenticated ∧
      (Profile.credential (w.1.console w.1.current).profile).1 = some ⟨"a1", none, .days 30⟩ ∧
      WorkspaceM.Runs (silentBackend.network fun _ _ ↦ none)
        (Operation.login "ada@example.com" "wrong" false).task w (.ok false) w' := by
  let host : Host := ⟨.empty .memory, ⟨0⟩, fun _ ↦ ⟨List.replicate 32 0, rfl⟩, 0⟩
  let config := Config.ofBase "http://h"
  let net : Network World := openBackend.network fun _ _ ↦ some 5
  let silent : Network World := silentBackend.network fun _ _ ↦ none
  have hn : net.Serves k := openBackend.network_serves k _
  let start := (Workspace.start config "host").run
  let login := Operation.login "ada@example.com" "s3cret" true
  let again := Operation.login "ada@example.com" "wrong" false
  let w₀ : World := (.initial host config "host", [])
  let w₁ := (Machine.run net 9 start.logged w₀).2.state
  let w₂ := (Machine.run net 9 login.task.logged w₁).2.state
  let w₃ := (Machine.run silent 9 again.task.logged w₂).2.state
  have h₁ : WorkspaceM.Runs net start w₀ (.ok .unauthenticated) w₁ := .of_toOption (by decide +kernel)
  have h₂ : WorkspaceM.Runs net login.task w₁ (.ok true) w₂ := .of_toOption (by decide +kernel)
  have h₃ : WorkspaceM.Runs silent again.task w₂ (.ok false) w₃ := .of_toOption (by decide +kernel)
  have ht : host.Timely := fun remember ↦ by cases remember <;> decide
  have hr : Reached k w₂ := .run (.start ⟨by decide, fun _ _ _ ↦ rfl⟩ ht hn h₁) hn h₂
  exact ⟨w₂, w₃, hr, by decide +kernel, by decide +kernel, h₃⟩

theorem Reached.credential_after_login :
    ∃ w : World, Reached .sparing w ∧
      (Console.status.run openBackend (w.1.console w.1.current) []).result.isAuthenticated ∧
      (Profile.credential (w.1.console w.1.current).profile).1.isSome := by
  obtain ⟨w, -, hr, ha, -⟩ := exists_signed_in_and_rejected .sparing
  exact ⟨w, hr, ha, hr.credential_of_authenticated openBackend [] ha⟩

end Backoffice
