import Backoffice.Task.Alone
import Backoffice.Task.Timeline

namespace Backoffice

open Web (Request Outcome)

/-- A network that asks a backend and keeps the exchanges. `delay` says how long an outcome is under
way, if it is not there at once. -/
def Backend.network {σ : Type} (backend : Backend) (delay : List Exchange → Request → Option Nat) :
    Network (σ × List Exchange) := fun r p ↦
  let o := backend p.2 r
  let d := match delay p.2 r with
    | some n => .after n o
    | none => .atOnce o
  (d, (p.1, ⟨r, o⟩ :: p.2))

def silentBackend : Backend := .ofFunction fun _ ↦ none

namespace Task

variable {γ γ' σ τ : Type} {α β : Type}

structure Lens (part : τ → σ) (put : σ → τ → τ) : Prop where
  part_put : ∀ a t, part (put a t) = a
  put_part : ∀ t, put (part t) t = t
  put_put : ∀ a b t, put a (put b t) = put a t

theorem run_zoom {part : τ → σ} {put : σ → τ → τ} (hl : Lens part put) (gate : γ → γ')
    (backend : Backend) (t : Task γ σ α) (s : τ) (tr : List Exchange) :
    (t.zoom part put gate).run backend s tr =
      let r := t.run backend (part s) tr
      ⟨r.result, put r.state s, r.trace⟩ := by
  induction t generalizing s tr with
  | done a => simp only [zoom, run, hl.put_part]
  | look k ih => exact ih _ s tr
  | update f next ih => simp only [zoom, run, ih, hl.part_put, hl.put_put]
  | send r k ih => exact ih _ s _
  | lock g next ih => exact ih s tr
  | unlock g next ih => exact ih s tr
  | both l r k ihl ihr ih => simp only [zoom, run, ihl, ihr, ih, hl.part_put, hl.put_put]

def logged (t : Task γ σ α) : Task γ (σ × List Exchange) α :=
  t.zoom Prod.fst (fun s p ↦ (s, p.2)) id

/-- Whether a task that holds some locks is one thread, never waits for a lock and ends in `Q`. -/
def Orderly : {α : Type} → Task γ σ α → List γ → (α → List γ → Prop) → Prop
  | _, done a, held, Q => Q a held
  | _, look k, held, Q => ∀ s, (k s).Orderly held Q
  | _, update _ next, held, Q => next.Orderly held Q
  | _, send _ k, held, Q => ∀ o, (k o).Orderly held Q
  | _, lock g next, held, Q => g ∉ held ∧ next.Orderly (g :: held) Q
  | _, unlock g next, held, Q => ∃ rest, held = g :: rest ∧ next.Orderly rest Q
  | _, both _ _ _, _, _ => False

variable {held : List γ}

theorem Orderly.mono {Q Q' : α → List γ → Prop} {t : Task γ σ α} (h : t.Orderly held Q)
    (hq : ∀ a held, Q a held → Q' a held) : t.Orderly held Q' := by
  induction t generalizing held with
  | done a => exact hq _ _ h
  | look k ih => exact fun s ↦ ih s (h s) hq
  | update f next ih => exact ih h hq
  | send r k ih => exact fun o ↦ ih o (h o) hq
  | lock g next ih => exact ⟨h.1, ih h.2 hq⟩
  | unlock g next ih =>
    obtain ⟨rest, rfl, h⟩ := h
    exact ⟨rest, rfl, ih h hq⟩
  | both l r k => exact h

@[simp] theorem orderly_bind (t : Task γ σ α) (f : α → Task γ σ β) (Q : β → List γ → Prop) :
    (t.bind f).Orderly held Q ↔ t.Orderly held fun a held ↦ (f a).Orderly held Q := by
  induction t generalizing held with
  | done a => rfl
  | look k ih => simp only [bind, Orderly, ih]
  | update g next ih => exact ih f
  | send r k ih => simp only [bind, Orderly, ih]
  | lock g next ih => simp only [bind, Orderly, ih]
  | unlock g next ih => simp only [bind, Orderly, ih]
  | both l r k => rfl

structure Balanced (held : List γ) (t : Task γ σ α) : Prop where
  orderly : t.Orderly held fun _ rest ↦ rest = held

theorem Balanced.done (a : α) : (done a : Task γ σ α).Balanced held := ⟨rfl⟩

theorem Balanced.bind {t : Task γ σ α} {f : α → Task γ σ β} (h : t.Balanced held)
    (hf : ∀ a, (f a).Balanced held) : (t.bind f).Balanced held := by
  refine ⟨(orderly_bind t f _).mpr (h.orderly.mono ?_)⟩
  intro a rest hq
  subst hq
  exact (hf a).orderly

theorem Balanced.state (act : StateM σ α) : (state act : Task γ σ α).Balanced held :=
  ⟨fun _ ↦ rfl⟩

theorem Balanced.request (r : Request) : (request r : Task γ σ Outcome).Balanced held :=
  ⟨fun _ ↦ rfl⟩

variable {ε : Type}

theorem Balanced.except_bind {t : ExceptT ε (Task γ σ) α} {f : α → ExceptT ε (Task γ σ) β}
    (h : t.run.Balanced held) (hf : ∀ a, (f a).run.Balanced held) :
    (t >>= f).run.Balanced held := by
  apply h.bind (f := ExceptT.bindCont f)
  intro r
  cases r with
  | error e => exact .done _
  | ok a => exact hf a

theorem Balanced.lift {t : Task γ σ α} (h : t.Balanced held) :
    (ExceptT.lift t : ExceptT ε (Task γ σ) α).run.Balanced held := h.bind fun _ ↦ .done _

theorem Balanced.locked {t : Task γ σ α} {f : α → ExceptT ε (Task γ σ) β} {g : γ} (hg : g ∉ held)
    (h : t.Balanced (g :: held)) (hf : ∀ a, (f a).run.Balanced held) :
    (do
      ExceptT.lift (acquire g)
      let a ← ExceptT.lift t
      ExceptT.lift (release g)
      f a : ExceptT ε (Task γ σ) β).run.Balanced held := by
  refine ⟨hg, ?_⟩
  change ((t.bind fun a ↦ .done (Except.ok a : Except ε α)).bind _).Orderly _ _
  simp only [bind_assoc, done_bind, orderly_bind]
  apply h.orderly.mono
  intro a rest hq
  subst hq
  exact ⟨held, rfl, (hf a).orderly⟩

theorem Orderly.zoom {part : τ → σ} {put : σ → τ → τ} {gate : γ → γ'}
    (hg : ∀ a b, gate a = gate b → a = b) {Q : α → List γ → Prop} {t : Task γ σ α}
    (h : t.Orderly held Q) : (t.zoom part put gate).Orderly (held.map gate)
      fun a rest ↦ ∃ r, rest = r.map gate ∧ Q a r := by
  induction t generalizing held with
  | done a => exact ⟨held, rfl, h⟩
  | look k ih => exact fun s ↦ ih _ (h _)
  | update f next ih => exact ih h
  | send r k ih => exact fun o ↦ ih o (h o)
  | lock g next ih =>
    refine ⟨fun hm ↦ ?_, ih h.2⟩
    obtain ⟨g', hm', he⟩ := List.mem_map.mp hm
    exact h.1 (hg g' g he ▸ hm')
  | unlock g next ih =>
    obtain ⟨rest, rfl, h⟩ := h
    exact ⟨rest.map gate, rfl, ih h⟩
  | both l r k => exact h

theorem Balanced.zoom {part : τ → σ} {put : σ → τ → τ} {gate : γ → γ'}
    (hg : ∀ a b, gate a = gate b → a = b) {t : Task γ σ α} (h : t.Balanced []) :
    (t.zoom part put gate).Balanced [] := by
  refine ⟨(Orderly.zoom hg h.orderly).mono ?_⟩
  intro a rest hq
  obtain ⟨r, rfl, rfl⟩ := hq
  rfl

end Task

namespace Machine

variable {γ σ : Type}

structure Idle (m : Machine γ σ) (held : List γ) : Prop where
  underway : m.underway = []
  held : m.held = held
  waiting : m.waiting = []
  granted : m.granted = []

theorem Idle.update {m : Machine γ σ} {held : List γ} (hm : m.Idle held) (s : σ) :
    ({ m with state := s } : Machine γ σ).Idle held :=
  ⟨hm.underway, hm.held, hm.waiting, hm.granted⟩

variable [DecidableEq γ] {α : Type}

/-- A task comes to `a` and leaves the state `s`, if it is given enough events. -/
def Ends (net : Network σ) (t : Task γ σ α) (m : Machine γ σ) (a : α) (s : σ) : Prop :=
  ∃ least, ∀ events, least ≤ events →
    ∃ m', settle net events (advance net t m).1 (advance net t m).2 = (some a, m') ∧ m'.state = s

theorem settle_finished (net : Network σ) (events : Nat) (a : α) (m : Machine γ σ) :
    settle net events (.finished a) m = (some a, m) := by
  cases events <;> rfl

section Steps

variable {net : Network σ} {m : Machine γ σ} {held : List γ} {r : Request} {o : Outcome}
  {k : Outcome → Task γ σ α} {g : γ} {next : Task γ σ α} {a : α} {s s' : σ}

theorem Ends.of_advance {t t' : Task γ σ α} {m' : Machine γ σ}
    (he : advance net t m = advance net t' m') (h : Ends net t' m' a s') : Ends net t m a s' := by
  unfold Ends
  rwa [he]

theorem ends_atOnce (hn : net r m.state = (.atOnce o, s))
    (h : Ends net (k o) { m with state := s } a s') : Ends net (.send r k) m a s' :=
  h.of_advance (by simp only [advance, hn])

theorem ends_lock (hm : m.Idle held) (hg : g ∉ held)
    (h : ∀ m' : Machine γ σ, m'.Idle (g :: held) → m'.state = m.state → Ends net next m' a s') :
    Ends net (.lock g next) m a s' := by
  let locked : Machine γ σ := { m with held := g :: held }
  have ha : advance net (.lock g next) m = advance net next locked := by
    simp only [advance, hm.held, hg, if_false, locked]
  exact (h locked ⟨hm.underway, rfl, hm.waiting, hm.granted⟩ rfl).of_advance ha

theorem ends_unlock (hm : m.Idle (g :: held))
    (h : ∀ m' : Machine γ σ, m'.Idle held → m'.state = m.state → Ends net next m' a s') :
    Ends net (.unlock g next) m a s' := by
  let unlocked : Machine γ σ := { m with held }
  -- No thread waits for a lock, so the one given back goes to none.
  have hf : m.free g = unlocked := by
    simp only [free, hm.waiting, List.find?_nil, hm.held, List.erase_cons_head, unlocked]
  have ha : advance net (.unlock g next) m = advance net next unlocked := by
    simp only [advance, hf]
  exact (h unlocked ⟨hm.underway, rfl, hm.waiting, hm.granted⟩ rfl).of_advance ha

theorem ends_send {delay : Nat} (hm : m.Idle held) (hn : net r m.state = (.after delay o, s))
    (h : ∀ m' : Machine γ σ, m'.Idle held → m'.state = s → Ends net (k o) m' a s') :
    Ends net (.send r k) m a s' := by
  let sent : Machine γ σ := { m with
    state := s
    tickets := m.tickets + 1
    underway := [⟨m.clock + delay, m.tickets, o⟩] }
  let answered : Machine γ σ := { sent with
    clock := max m.clock (m.clock + delay)
    underway := [] }
  have ha : advance net (.send r k) m = (.awaiting m.tickets k, sent) := by
    simp only [advance, hn, hm.underway, List.nil_append, sent]
  have hs : step net (.awaiting m.tickets k) sent = some (advance net (k o) answered) := by
    simp [step, sent, answered, hm.granted, earliest, wake]
  obtain ⟨least, hl⟩ := h answered ⟨rfl, hm.held, hm.waiting, hm.granted⟩ rfl
  refine ⟨least + 1, fun events he ↦ ?_⟩
  obtain ⟨n, rfl⟩ : ∃ n, events = n + 1 := ⟨events - 1, by omega⟩
  obtain ⟨m', hm', hst⟩ := hl n (by omega)
  exact ⟨m', by simpa only [ha, settle, hs] using hm', hst⟩

end Steps

/-- A task that nothing runs beside ends in time as it does alone. -/
theorem ends_of_orderly {backend : Backend} {delay : List Exchange → Request → Option Nat}
    {Q : α → List γ → Prop} {t : Task γ σ α} {held : List γ} (ht : t.Orderly held Q)
    {m : Machine γ (σ × List Exchange)} (hm : m.Idle held) :
    let r := t.run backend m.state.1 m.state.2
    Ends (backend.network delay) t.logged m r.result (r.state, r.trace) := by
  induction t generalizing m held with
  | done a => exact ⟨0, fun n _ ↦ ⟨m, settle_finished _ n a m, rfl⟩⟩
  | look k ih => exact ih m.state.1 (ht _) hm
  | update f next ih => exact ih ht (hm.update _)
  | send r k ih =>
    let o := backend m.state.2 r
    let s := (m.state.1, ⟨r, o⟩ :: m.state.2)
    cases hd : delay m.state.2 r with
    | none =>
      have hn : backend.network delay r m.state = (.atOnce o, s) := by
        simp only [Backend.network, hd, o, s]
      exact ends_atOnce hn (ih o (ht o) (hm.update s))
    | some n =>
      have hn : backend.network delay r m.state = (.after n o, s) := by
        simp only [Backend.network, hd, o, s]
      refine ends_send hm hn fun m' hm' hs ↦ ?_
      have h := ih o (ht o) hm'
      rwa [hs] at h
  | lock g next ih =>
    refine ends_lock hm ht.1 fun m' hm' hs ↦ ?_
    have h := ih ht.2 hm'
    rwa [hs] at h
  | unlock g next ih =>
    obtain ⟨rest, rfl, ht⟩ := ht
    refine ends_unlock hm fun m' hm' hs ↦ ?_
    have h := ih ht hm'
    rwa [hs] at h
  | both l r k => exact ht.elim

/-- A run in time of a task that nothing runs beside comes to what a run alone does. -/
theorem run_of_balanced {t : Task γ σ α} (ht : t.Balanced [])
    (backend : Backend) (delay : List Exchange → Request → Option Nat) (s : σ)
    (tr : List Exchange) :
    ∃ least, ∀ events, least ≤ events →
      ∃ m, run (backend.network delay) events t.logged (s, tr) =
          (some (t.run backend s tr).result, m) ∧
        m.state = ((t.run backend s tr).state, (t.run backend s tr).trace) :=
  ends_of_orderly ht.orderly (m := start (s, tr)) ⟨rfl, rfl, rfl, rfl⟩

theorem settle_succ_eq (net : Network σ) (events : Nat) (t : Thread γ σ α) (m : Machine γ σ) :
    settle net (events + 1) t m =
      match t, step net t m with
      | .finished a, _ => (some a, m)
      | _, some p => settle net events p.1 p.2
      | _, none => (none, m) := by
  cases h : step net t m <;> cases t <;> simp only [settle, h]

theorem settle_mono {net : Network σ} {events more : Nat} {t : Thread γ σ α} {m m' : Machine γ σ}
    {a : α} (h : settle net events t m = (some a, m')) (hle : events ≤ more) :
    settle net more t m = (some a, m') := by
  induction events generalizing t m more with
  | zero =>
    cases t with
    | finished b => rwa [settle_finished] at h ⊢
    | awaiting n k => cases h
    | queued n next => cases h
    | pair l r k => cases h
  | succ events ih =>
    obtain ⟨n, rfl⟩ : ∃ n, more = n + 1 := ⟨more - 1, by omega⟩
    rw [settle_succ_eq] at h ⊢
    split at h
    · exact h
    · exact ih h (by omega)
    · cases h

/-- Whatever a task that nothing runs beside comes to in time, it comes to alone. -/
theorem eq_of_run_balanced {t : Task γ σ α} (ht : t.Balanced []) {backend : Backend}
    {delay : List Exchange → Request → Option Nat} {s : σ} {tr : List Exchange} {events : Nat}
    {a : α} {m : Machine γ (σ × List Exchange)}
    (h : run (backend.network delay) events t.logged (s, tr) = (some a, m)) :
    a = (t.run backend s tr).result ∧
      m.state = ((t.run backend s tr).state, (t.run backend s tr).trace) := by
  obtain ⟨least, hl⟩ := run_of_balanced ht backend delay s tr
  obtain ⟨m', hm', hs⟩ := hl (max least events) (Nat.le_max_left _ _)
  have hr := settle_mono h (Nat.le_max_right least events)
  obtain ⟨ha, rfl⟩ := Prod.mk.inj (hr.symm.trans hm')
  exact ⟨Option.some.inj ha, hs⟩

end Machine

end Backoffice
