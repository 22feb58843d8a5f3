import Backoffice.Proofs.Client.WorkspaceLockout

namespace Backoffice

open Web (Request)
open Workspace (guarded Ends Guarded Begins)

namespace Workspace.Ticks

variable {w w' w₀ : Workspace} {n mark : Nat} (ht : w.Ticks .expiring w')

include ht

theorem context (n : Nat) : (w'.console n).context = (w.console n).context := by
  rw [ht.console n]

theorem heeds {settled : Prop} (hv : (w.console n).view.Heeds mark settled) :
    (w'.console n).view.Heeds mark settled := by
  have hx : (w'.console n).view.context = (w.console n).view.context := ht.context n
  have hc : (w'.console n).view.Coherent .unknown := (holds (h := .unknown) ht ⟨hv.coherent, trivial⟩).1
  refine ⟨hc, fun hs ↦ hx ▸ hv.settled hs, fun hm ↦ ?_⟩
  obtain ⟨hn, hl⟩ := hv.lockedOut (hx ▸ hm)
  exact ⟨(spares (h := .unknown) ht n).of_none hn, hx ▸ hl⟩

theorem current : w'.current = w.current := by rw [ht.only_host]

theorem placed (hw : w.Placed) : w'.Placed := by
  refine hw.beside (ht.reliable hw.reliable) (ht.seated hw.seated) ?_
  exact ht.beside ⟨rfl, rfl, rfl, fun _ ↦ rfl⟩

theorem guarded (hw : w.Guarded mark) : w'.Guarded mark :=
  ⟨ht.placed hw.placed, ht.current ▸ ht.heeds hw.heeds⟩

end Workspace.Ticks

/-- An operation up to a wait or to its end, or the start of the first client where `op` is none. It works in
`client`, and `sent` are the requests that it sent when it last went on. -/
structure Scene : Type 1 where
  {result : Type}
  op : Option (Operation result)
  client : Nat
  strand : Strand (Nat × Gate) Workspace result
  share : Share (Nat × Gate) Workspace
  sent : List Request

namespace Scene

def console (s : Scene) : Console := s.share.state.console s.client

def signOuts (s : Scene) : Nat := s.console.context.signOuts

def Spells (s : Scene) (r : Request) : Prop := ∃ op, s.op = some op ∧ op.Spells r

def Signing (s : Scene) : Prop := ∃ op, s.op = some op ∧ op.IsLogin

def start (host : Host) (config : Config) (hostName : String) : Scene :=
  let p := (Workspace.start config hostName).run.park ⟨.initial host config hostName, []⟩
  ⟨none, 1, p.1, p.2, p.1.underway⟩

def begun {α : Type} (op : Operation α) (share : Share (Nat × Gate) Workspace) : Scene :=
  let p := op.task.park share
  ⟨some op, op.client share.state, p.1, p.2, p.1.underway⟩

def turned (s : Scene) (t : Turn)
    (p : Strand (Nat × Gate) Workspace s.result × Share (Nat × Gate) Workspace) : Scene :=
  ⟨s.op, s.client, p.1, p.2, p.1.launched t⟩

def ticked (s : Scene) (w : Workspace) : Scene := ⟨s.op, s.client, s.strand, ⟨w, s.share.held⟩, []⟩

inductive Step (s : Scene) : Scene → Prop
  | begin {α : Type} (op : Operation α) (h : s.strand.result?.isSome) : Step s (begun op s.share)
  | turn (t : Turn) {p : Strand (Nat × Gate) Workspace s.result × Share (Nat × Gate) Workspace}
      (h : s.strand.go t s.share = some p) : Step s (s.turned t p)
  | tick {w : Workspace} (h : s.share.state.Ticks .expiring w) : Step s (s.ticked w)

/-- The scenes that are reached from the start of a client over a store that refuses nothing. -/
inductive Reached : Scene → Prop
  | start {host : Host} (config : Config) (hostName : String) (hr : host.durable.Reliable)
      (ht : host.Timely) : Reached (start host config hostName)
  | step {s s' : Scene} (h : Reached s) (hs : s.Step s') : Reached s'

/-- The scenes from a sign-out that a failed refresh forced on, as long as no login has stored tokens. -/
inductive SignedOut : Scene → Prop
  | forced {s : Scene} {t : Turn} {p : Strand (Nat × Gate) Workspace s.result × Share (Nat × Gate) Workspace}
      (h : s.Reached) (hg : s.strand.go t s.share = some p) (hc : s.signOuts < (s.turned t p).signOuts) :
      SignedOut (s.turned t p)
  | later {s s' : Scene} (h : SignedOut s) (hs : s.Step s')
      (hn : s'.Signing → (Profile.credential s'.console.profile).1 = none) : SignedOut s'

structure Keeps (s : Scene) (L : Lockout) : Prop where
  honours : ∃ w₀ m, s.strand.Honours (guarded L s.client w₀) (Ends L s.client) m s.share.state ∧
    (m = true → (s.client, Gate.refresh) ∈ s.share.held)

namespace Keeps

variable {s : Scene} {L : Lockout} {w : Workspace}

theorem of_begins {α : Type} {t : WorkspaceM α} {n k : Nat} (op : Option (Operation α))
    (h : Begins L n k t w) (held : List (Nat × Gate)) :
    let p := t.park ⟨w, held⟩
    let s : Scene := ⟨op, n, p.1, p.2, p.1.underway⟩
    s.Keeps L ∧ k ≤ s.signOuts ∧ ∀ r ∈ s.sent, L.pact.moot s.console.view ∨ L.Sends s.console.view r :=
  have ⟨hp, hk, hr⟩ := h.park held
  ⟨⟨hp⟩, hk, hr⟩

/-- The client of an operation, while it has not come to what lifts the lock-out. -/
theorem heeds (h : s.Keeps L) (ho : ¬L.pact.moot s.console.view) :
    s.console.Reliable ∧ s.console.view.Heeds L.mark False := by
  obtain ⟨w₀, m, hh, -⟩ := h.honours
  rcases hh.holds_or_ended ho with ⟨⟨hr, hv⟩, -⟩ | ⟨a, -, -, hc, hg⟩
  · exact ⟨hr, hv.coherent, nofun, hv.lockedOut⟩
  · rw [console, ← hc]
    exact ⟨hg.placed.reliable, hg.heeds.coherent, nofun, hg.heeds.lockedOut⟩

theorem ended (h : s.Keeps L) (hr : s.strand.result?.isSome) :
    s.share.state.current = s.client ∧ s.share.state.Guarded L.mark := by
  obtain ⟨w₀, m, hh, -⟩ := h.honours
  cases hs : s.strand with
  | ended a =>
    rw [hs] at hh
    exact hh.2
  | _ => simp [hs, Strand.result?] at hr

theorem turn (h : s.Keeps L) (ho : ¬L.pact.moot s.console.view) {t : Turn}
    {p : Strand (Nat × Gate) Workspace s.result × Share (Nat × Gate) Workspace}
    (hg : s.strand.go t s.share = some p) :
    (s.turned t p).Keeps L ∧ s.signOuts ≤ (s.turned t p).signOuts ∧
      ∀ r ∈ (s.turned t p).sent,
        L.pact.moot (s.turned t p).console.view ∨ L.Sends (s.turned t p).console.view r := by
  obtain ⟨w₀, m, hh, hm⟩ := h.honours
  obtain ⟨⟨m', hh', ht⟩, hr⟩ := hh.go hm ho hg
  exact ⟨⟨w₀, m', hh', ht.held⟩, ht.le, hr⟩

theorem tick (h : s.Keeps L) (ho : ¬L.pact.moot s.console.view) (ht : s.share.state.Ticks .expiring w) :
    (s.ticked w).Keeps L ∧ (s.ticked w).signOuts = s.signOuts := by
  have hk : (w.console s.client).context.signOuts = s.signOuts :=
    congrArg Context.signOuts (ht.context s.client)
  obtain ⟨w₀, m, hh, hm⟩ := h.honours
  have hq (a : s.result) (he : s.strand = .ended a) : Ends L s.client m a w := by
    rw [he] at hh
    obtain ⟨rfl, hc, hg⟩ := hh
    exact ⟨rfl, ht.current.trans hc, ht.guarded hg⟩
  refine ⟨⟨w₀, m, ?_, hm⟩, hk⟩
  change s.strand.Honours _ _ m w
  rcases hh.holds_or_ended ho with ⟨⟨hr, hv⟩, hs, hb⟩ | ⟨a, he, -⟩
  · exact hh.resume ho ⟨⟨ht.reliable hr, ht.heeds hv⟩, ht.seated hs, ht.beside hb⟩
      ⟨Nat.le_of_eq hk.symm, fun _ ↦ hk⟩ hq
  · rw [he]
    exact hq a he

end Keeps

/-- Before any further sign-out counts, what is left of an operation keeps its pact from there on. -/
theorem Reached.keeps {s : Scene} (h : s.Reached) :
    ∃ k ≤ s.signOuts, ∀ n, k < n →
      ∃ L : Lockout, L.mark = n ∧ ¬L.lifted ∧ (∀ r, L.own r → s.Spells r) ∧ s.Keeps L := by
  induction h with
  | @start host config hostName hr ht =>
    let L (n : Nat) : Lockout := ⟨n, fun _ ↦ False, False, False, True⟩
    have hb (n : Nat) (hn : 0 < n) : Begins (L n) 1 0 (Workspace.start config hostName).run
        (.initial host config hostName) :=
      Workspace.start_begins (w := .initial host config hostName) config hostName hr (fun _ _ ↦ rfl)
        (Profile.blank_sound (p := .blank host) ht) trivial id (.inr hn)
    exact ⟨0, Nat.zero_le _, fun n hn ↦ ⟨L n, rfl, id, fun _ ↦ False.elim, (Keeps.of_begins none (hb n hn) []).1⟩⟩
  | @step s s' _ hs ih =>
    obtain ⟨k, hk, hL⟩ := ih
    obtain ⟨L, hm, hl, ho, hkeep⟩ := hL (k + 1) (Nat.lt_succ_self k)
    cases hs with
    | begin op he =>
      obtain ⟨-, hg⟩ := hkeep.ended he
      have hb (n : Nat) (hn : op.tally s.share.state < n) := Keeps.of_begins (some op)
        (op.begins hg (.inr hn)) s.share.held
      refine ⟨op.tally s.share.state, (hb _ (Nat.lt_succ_self _)).2.1, fun n hn ↦ ?_⟩
      exact ⟨op.lockout n s.share.state, rfl, fun h ↦ Nat.not_le_of_lt hn h.2, fun r hr ↦ ⟨op, rfl, hr⟩,
        (hb n hn).1⟩
    | turn t hg =>
      refine ⟨k, Nat.le_trans hk (hkeep.turn (fun h ↦ hl h.1) hg).2.1, fun n hn ↦ ?_⟩
      obtain ⟨L, hm, hl, ho, hkeep⟩ := hL n hn
      exact ⟨L, hm, hl, ho, (hkeep.turn (fun h ↦ hl h.1) hg).1⟩
    | tick ht =>
      refine ⟨k, (hkeep.tick (fun h ↦ hl h.1) ht).2.symm ▸ hk, fun n hn ↦ ?_⟩
      obtain ⟨L, hm, hl, ho, hkeep⟩ := hL n hn
      exact ⟨L, hm, hl, ho, (hkeep.tick (fun h ↦ hl h.1) ht).1⟩

theorem Reached.reliable {s : Scene} (h : s.Reached) : s.console.Reliable := by
  obtain ⟨k, -, hL⟩ := h.keeps
  obtain ⟨L, -, hl, -, hkeep⟩ := hL (k + 1) (Nat.lt_succ_self k)
  exact (hkeep.heeds fun h ↦ hl h.1).1

theorem SignedOut.reached {s : Scene} (h : s.SignedOut) : s.Reached := by
  induction h with
  | forced h hg => exact h.step (.turn _ hg)
  | later _ hs _ ih => exact ih.step hs

structure Barred (s : Scene) : Prop where
  keeps : ∃ L : Lockout, L.mark ≤ s.signOuts ∧ (L.lifted → s.Signing) ∧ (∀ r, L.own r → s.Spells r) ∧
    s.Keeps L
  reliable : s.console.Reliable
  coherent : s.console.view.Coherent .unknown
  lockedOut : s.console.view.LockedOut
  sent : ∀ r ∈ s.sent, r.auth = none ∧ (r.refreshToken? = none ∨ s.Spells r)

theorem Keeps.barred {s : Scene} {L : Lockout} (h : s.Keeps L) (hm : L.mark ≤ s.signOuts)
    (hl : L.lifted → s.Signing) (ho : ∀ r, L.own r → s.Spells r)
    (hn : s.Signing → s.console.view.sight.credential = none)
    (hr : ∀ r ∈ s.sent, L.pact.moot s.console.view ∨ L.Sends s.console.view r) : s.Barred := by
  have hover : ¬L.pact.moot s.console.view := fun h ↦ by
    have hc := h.2
    rw [hn (hl h.1)] at hc
    cases hc
  obtain ⟨hrel, hv⟩ := h.heeds hover
  have hlo := hv.lockedOut hm
  refine ⟨⟨L, hm, hl, ho, h⟩, hrel, hv.coherent, hlo, fun r hmem ↦ ?_⟩
  exact ((hr r hmem).resolve_left hover hlo.credential).imp_right (Or.imp_right (ho r))

theorem SignedOut.barred {s : Scene} (h : s.SignedOut) : s.Barred := by
  induction h with
  | @forced s t p h hg hc =>
    obtain ⟨k, hk, hL⟩ := h.keeps
    obtain ⟨L, hm, hl, ho, hkeep⟩ := hL _ (Nat.lt_of_le_of_lt hk hc)
    obtain ⟨hkeep', -, hr⟩ := hkeep.turn (fun h ↦ hl h.1) hg
    refine hkeep'.barred (Nat.le_of_eq hm) (absurd · hl) ho (fun _ ↦ ?_) hr
    exact ((hkeep'.heeds fun h ↦ hl h.1).2.lockedOut (Nat.le_of_eq hm)).credential
  | @later s s' h hs hn ih =>
    have hn' (hsign : s'.Signing) : s'.console.view.sight.credential = none := by
      rw [← hn hsign, Profile.credential_eq (h.reached.step hs).reliable]
      rfl
    obtain ⟨⟨L, hm, hl, ho, hkeep⟩, -, -, hlo, -⟩ := ih
    have hover : ¬L.pact.moot s.console.view := fun h ↦ by
      have hc := h.2
      rw [hlo.credential] at hc
      cases hc
    cases hs with
    | begin op he =>
      obtain ⟨hcur, hg⟩ := hkeep.ended he
      rw [console, ← hcur] at hlo
      have hb : Begins (op.lockout 0 s.share.state) _ _ _ _ := op.begins hg (.inl hlo)
      obtain ⟨hkeep', -, hr⟩ := Keeps.of_begins (some op) hb s.share.held
      exact hkeep'.barred (Nat.zero_le _) (fun h ↦ ⟨op, rfl, h.1⟩) (fun r hr ↦ ⟨op, rfl, hr⟩) hn' hr
    | turn t hg =>
      obtain ⟨hkeep', hle, hr⟩ := hkeep.turn hover hg
      exact hkeep'.barred (Nat.le_trans hm hle) hl ho hn' hr
    | tick ht =>
      obtain ⟨hkeep', he⟩ := hkeep.tick hover ht
      exact hkeep'.barred (he ▸ hm) hl ho hn' nofun

end Scene

end Backoffice
