import Backoffice.Proofs.Client.Inquiry
import Backoffice.Proofs.Client.Reset
import Backoffice.Proofs.Client.Scene

namespace Backoffice

open Web (Request)
open Console (Ensures EnsuresOf signedOut)

variable {ρ : Type}

namespace Inquiry

variable (q : Inquiry ρ) {c : Console} {held : List Gate}

theorem park_unsigned (hc : c.Reliable) (hn : c.view.sight.credential = none) :
    ∃ c', c'.view = c.view ∧
      q.task.park ⟨c, held⟩ = q.park (.calling { q.call with token := none } (.asked none)) ⟨c', held⟩ := by
  obtain ⟨c', he, -, hv⟩ := (q.first_leads c.view held).park c hc rfl
  rw [hn] at he
  exact ⟨c', hv, he⟩

theorem answer_refused (token : Option String) (r : Request) {a : Web.Response}
    (ha : a.status = unauthorized) (s : Share Gate Console) :
    (q.strand (.asked token r)).go (.answer (some a)) s = some (q.strand (.queued token), s) := by
  simp [strand, Strand.go, received, answered, ha, Task.park]

theorem grant_unsigned (hc : c.Reliable) (ht : c.view.sight.Timely) (hn : c.view.sight.credential = none)
    {refused : Option String} {p : Strand Gate Console ρ × Share Gate Console}
    (hg : (q.strand (.queued refused)).go .grant ⟨c, held⟩ = some p) :
    ∃ c', c'.view = signedOut c.view ∧
      p = (q.andThen (.error (.refreshFailed .noToken))).park ⟨c', held⟩ := by
  obtain ⟨on, c', held', hgo, -, rfl⟩ := go_goes hc ht hg
  generalize hv : c'.view = v' at hgo
  cases hgo with
  | replaced _ hc' => cases hn.symm.trans hc'
  | unrefreshable => exact ⟨c', hv, rfl⟩
  | unsent _ _ ht =>
    rw [hn] at ht
    cases ht
  | renewing _ _ ht =>
    rw [hn] at ht
    cases ht

end Inquiry

namespace Console

variable {T : Terms View} {v : View}

theorem observed_of_lockedOut (hv : v.LockedOut) : v.context.observed.status.isAuthenticated = false := by
  unfold Context.observed
  split
  · rfl
  · next hn =>
    refine Bool.eq_false_iff.mpr fun ha ↦ hn ?_
    simpa [ha] using Nat.ne_of_lt (hv.seen_lt ha)

theorem observed_of_settled (hv : v.LockedOut) (hs : v.context.status.isSettled) :
    v.context.observed.status = .unauthenticated := by
  have ha := observed_of_lockedOut hv
  unfold Context.observed at ha ⊢
  split
  · rfl
  · next hn =>
    rw [if_neg hn] at ha
    cases hx : v.context.status with
    | unauthenticated => rfl
    | bootstrapping =>
      rw [hx] at hs
      cases hs
    | loading =>
      rw [hx] at hs
      cases hs
    | authenticated s =>
      rw [hx] at ha
      cases ha

end Console

namespace Workspace

variable {w : Workspace}

theorem status_ends (hw : w.Placed) (hl : (w.console w.current).view.LockedOut)
    (hs : (w.console w.current).context.status.isSettled) :
    (inCurrent Console.status).AtOnce (fun x _ ↦ x = .unauthenticated) w :=
  Task.Safe.mono (inClient_ends hw.reliable hw.seated (Console.status_ensures _)) fun _ _ h ↦
    h.1.2.1.trans (Console.observed_of_settled hl hs)

theorem openUserForm_ends (hw : w.Placed) (hl : (w.console w.current).view.LockedOut) (mode : FormMode) :
    (openUserForm mode).run.AtOnce (fun r _ ↦ r = .error .notAuthenticated) w := by
  have ha := inClient_ends hw.reliable hw.seated (Console.isAuthenticated_ensures _)
  refine read_bind (Task.Safe.lift_bind ha ?_)
  rintro _ w' ⟨⟨-, rfl, -⟩, -, -⟩
  rw [Console.observed_of_lockedOut hl]
  exact rfl

theorem start_ends (config : Config) (hostName : String) (hr : w.host.durable.Reliable)
    (hf : ∀ m, w.next ≤ m → w.sessionStores m = ⟨[], []⟩)
    (hn : (Profile.sight (.blank w.host)).credential = none) :
    (start config hostName).run.AtOnce (fun r _ ↦ r = .ok .unauthenticated) w := by
  have hc := console_withFresh config hostName (hf _ (Nat.le_refl _))
  have he : Ensures .atOnce Console.start.run ((w.withFresh config hostName).console (w.next + 1)).view
      fun r _ ↦ r = .ok .unauthenticated := by
    rw [hc]
    exact Ensures.mono (Console.start_unsigned hn) fun _ _ h ↦ h.1
  refine allot_bind (addClient_bind (Task.Safe.lift_bind
    (inClient_ends (hc ▸ hr) (seated_withFresh config hostName hf) he) ?_))
  rintro _ w' ⟨⟨-, rfl⟩, -, -⟩
  exact rfl

theorem restart_ends (hw : w.Placed) (hs : (w.console w.current).view.sight.Sound)
    (hn : (w.console w.current).view.sight.credential = none) :
    restart.run.AtOnce (fun r _ ↦ r = .ok .unauthenticated) w :=
  read_bind (start_ends _ _ hw.reliable hw.seated.fresh (Profile.credential_blank hs hn))

end Workspace

theorem Task.AtOnce.park_eq {γ σ α : Type} [DecidableEq γ] {t : Task γ σ α} {a : α} {s : Share γ σ}
    (h : t.AtOnce (fun b _ ↦ b = a) s.state) : (t.park s).1 = .ended a := by
  obtain ⟨_, he, rfl⟩ := h.park
  exact he

theorem Operation.IsLogin.call?_eq_none {α : Type} {op : Operation α} (h : op.IsLogin) :
    op.call? = none := by
  cases h <;> rfl

namespace Scene

/-- From a sign-out that a failed refresh forced on, and as long as no login has stored tokens, every request
is sent without a token, and none asks for new tokens unless the user spells it out. -/
theorem SignedOut.locked_out {s : Scene} (h : s.SignedOut) :
    (∀ r ∈ s.sent, r.auth = none ∧ (r.refreshToken? = none ∨ s.Spells r)) ∧
    (Profile.credential s.console.profile).1 = none ∧
    s.console.context.observed.status.isAuthenticated = false ∧
    (∀ {ρ : Type} (q : Inquiry ρ) (held : List Gate),
      (∃ c, c.view = s.console.view ∧ q.task.park ⟨s.console, held⟩ =
        q.park (.calling { q.call with token := none } (.asked none)) ⟨c, held⟩) ∧
      (∀ token r a, a.status = unauthorized →
        (q.strand (.asked token r)).go (.answer (some a)) ⟨s.console, held⟩ =
          some (q.strand (.queued token), ⟨s.console, held⟩)) ∧
      ∀ refused p, (q.strand (.queued refused)).go .grant ⟨s.console, held⟩ = some p →
        ∃ c, c.view = signedOut s.console.view ∧
          p = (q.andThen (.error (.refreshFailed .noToken))).park ⟨c, held⟩) ∧
    (∀ host config hostName, s.share.state.host.Ticks .expiring host →
      ((Workspace.start config hostName).run.park ⟨.initial host config hostName, []⟩).1 =
        .ended (.ok .unauthenticated)) ∧
    (s.strand.result?.isSome →
      (Operation.status.task.park s.share).1 = .ended .unauthenticated ∧
      (∀ mode, ((Operation.openForm mode).task.park s.share).1 = .ended (.error .notAuthenticated)) ∧
      (Operation.restart.task.park s.share).1 = .ended (.ok .unauthenticated)) := by
  obtain ⟨⟨L, -, -, -, hkeep⟩, hr, hv, hlo, hsent⟩ := h.barred
  refine ⟨hsent, ?_, Console.observed_of_lockedOut hlo, fun q held ↦ ⟨?_, ?_, ?_⟩, ?_, fun he ↦ ?_⟩
  · rw [Profile.credential_eq hr]
    exact hlo.credential
  · exact q.park_unsigned hr hlo.credential
  · exact fun token r a ha ↦ q.answer_refused token r ha _
  · exact fun refused p hg ↦ q.grant_unsigned hr hv.sound.timely hlo.credential hg
  · intro host config hostName ht
    have hb := Profile.credential_blank hv.sound hlo.credential
    have hd : host.durable = s.share.state.host.durable := by rw [ht.only_now]
    have ha := Workspace.start_ends (w := .initial host config hostName) config hostName (hd ▸ hr)
      (fun _ _ ↦ rfl) ((ht.ages [] []).credential_none hb)
    exact Task.AtOnce.park_eq (s := ⟨_, []⟩) ha
  · -- Between operations the client is the current one, and its status is settled.
    obtain ⟨hc, hg⟩ := hkeep.ended he
    rw [console, ← hc] at hlo hv
    exact ⟨(Workspace.status_ends hg.placed hlo (hg.heeds.settled trivial)).park_eq,
      fun mode ↦ (Workspace.openUserForm_ends hg.placed hlo mode).park_eq,
      (Workspace.restart_ends hg.placed hv.sound hlo.credential).park_eq⟩

/-- What one lets happen: an operation begins, or the one that goes on takes a turn. -/
inductive Cue : Type 1
  | begin {α : Type} (op : Operation α)
  | turn (t : Turn)

def after (s : Scene) : Cue → Option Scene
  | .begin op => if s.strand.result?.isSome then some (begun op s.share) else none
  | .turn t => (s.strand.go t s.share).map (s.turned t)

theorem step_of_after {s s' : Scene} {c : Cue} (h : s.after c = some s') : s.Step s' := by
  cases c with
  | begin op =>
    obtain ⟨he, hs⟩ := Option.ite_none_right_eq_some.mp h
    cases hs
    exact .begin op he
  | turn t =>
    obtain ⟨p, hg, rfl⟩ := Option.map_eq_some_iff.mp h
    exact .turn t hg

theorem Reached.play {s s' : Scene} (h : s.Reached) {cues : List Cue}
    (hp : cues.foldlM after s = some s') : s'.Reached := by
  induction cues generalizing s with
  | nil =>
    cases hp
    exact h
  | cons c cues ih =>
    obtain ⟨s₁, ha, hp⟩ := Option.bind_eq_some_iff.mp hp
    exact ih (h.step (step_of_after ha)) hp

/-- Somebody signs in, a request of his is refused, and so is his refresh token. The next request asks
without a token. -/
theorem SignedOut.locked_out_of_refused_refresh :
    ∃ s : Scene, s.SignedOut ∧ s.sent.length = 1 ∧ (∀ r ∈ s.sent, r.auth = none) ∧
      (Profile.credential s.console.profile).1 = none := by
  let host : Host := ⟨.empty .memory, ⟨0⟩, fun _ ↦ ⟨List.replicate 32 0, rfl⟩, 0⟩
  let get := Operation.request "GET" "http://h/x" .empty
  let cues : List Cue := [.begin (.login "ada@example.com" "s3cret" true),
    .turn (.receive 200 "\x7b\"access_token\":\"a1\",\"refreshToken\":\"r1\"\x7d"),
    .turn (.receive 200 "\x7b\"success\":true,\"data\":\x7b\"id\":\"u1\"\x7d\x7d"),
    .begin get, .turn (.receive 401 ""), .turn .grant]
  have hplay : ((cues.foldlM after (start host (.ofBase "http://h") "host")).any fun s ↦
      ((s.strand.go (.receive 401 "") s.share).any fun p ↦
        s.signOuts < (s.turned (.receive 401 "") p).signOuts &&
          ((s.turned (.receive 401 "") p).after (.begin get)).any fun s' ↦ s'.sent.length = 1)) = true := by
    decide +kernel
  simp only [Option.any_eq_true, Bool.and_eq_true, decide_eq_true_eq] at hplay
  obtain ⟨s, hs, p, hg, hlt, s', hs', hl⟩ := hplay
  have ht : host.Timely := fun remember ↦ by cases remember <;> decide
  have hr : s.Reached := .play (.start (.ofBase "http://h") "host" ⟨by decide, fun _ _ _ ↦ rfl⟩ ht) hs
  have hstep := step_of_after hs'
  have ho : s'.SignedOut := .later (.forced hr hg hlt) hstep fun hsign ↦ by
    obtain ⟨-, he⟩ := Option.ite_none_right_eq_some.mp hs'
    cases he
    obtain ⟨op, ho, hl⟩ := hsign
    cases ho
    cases hl.call?_eq_none
  exact ⟨s', ho, hl, fun r hr ↦ (ho.locked_out.1 r hr).1, ho.locked_out.2.1⟩

end Scene

end Backoffice
