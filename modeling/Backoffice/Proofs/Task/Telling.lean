import Backoffice.Proofs.Task.Frame
import Backoffice.Proofs.Task.Safety

namespace Backoffice

open Web (Request Outcome)

namespace Task

variable {γ γ' σ τ ε : Type} {α β : Type} {rely : σ → σ → Prop}

/-- Whether a task that goes on from a state, after some exchanges, ends in `Q`. `rely` says what a wait
may make of the state. -/
def Tells (rely : σ → σ → Prop) : {α : Type} → Task γ σ α → (α → σ → List Exchange → Prop) → σ →
    List Exchange → Prop
  | _, done a, Q, s, tr => Q a s tr
  | _, look k, Q, s, tr => (k s).Tells rely Q s tr
  | _, update f next, Q, s, tr => next.Tells rely Q (f s) tr
  | _, send r k, Q, s, tr => ∀ o t, rely s t → (k o).Tells rely Q t (⟨r, o⟩ :: tr)
  | _, lock _ next, Q, s, tr => ∀ t, rely s t → next.Tells rely Q t tr
  | _, unlock _ next, Q, s, tr => next.Tells rely Q s tr
  | _, both _ _ _, _, _, _ => False

variable {s : σ} {tr : List Exchange} {Q Q' : α → σ → List Exchange → Prop}
  {R : β → σ → List Exchange → Prop} {t : Task γ σ α}

namespace Tells

theorem mono (h : t.Tells rely Q s tr) (hq : ∀ a s tr, Q a s tr → Q' a s tr) :
    t.Tells rely Q' s tr := by
  induction t generalizing s tr with
  | done a => exact hq _ _ _ h
  | look k ih => exact ih s h hq
  | update f next ih => exact ih h hq
  | send r k ih => exact fun o t ht ↦ ih o (h o t ht) hq
  | lock g next ih => exact fun t ht ↦ ih (h t ht) hq
  | unlock g next ih => exact ih h hq
  | both l r k => exact h

theorem bind {f : α → Task γ σ β} (h : t.Tells rely Q s tr)
    (hf : ∀ a s tr, Q a s tr → (f a).Tells rely R s tr) : (t.bind f).Tells rely R s tr := by
  induction t generalizing s tr with
  | done a => exact hf _ _ _ h
  | look k ih => exact ih s h hf
  | update g next ih => exact ih h hf
  | send r k ih => exact fun o t ht ↦ ih o (h o t ht) hf
  | lock g next ih => exact fun t ht ↦ ih (h t ht) hf
  | unlock g next ih => exact ih h hf
  | both l r k => exact h

theorem except_bind {Q : Except ε α → σ → List Exchange → Prop}
    {R : Except ε β → σ → List Exchange → Prop} {t : ExceptT ε (Task γ σ) α}
    {f : α → ExceptT ε (Task γ σ) β} (h : t.run.Tells rely Q s tr)
    (hf : ∀ a s tr, Q (.ok a) s tr → (f a).run.Tells rely R s tr)
    (he : ∀ e s tr, Q (.error e) s tr → R (.error e) s tr) : (t >>= f).run.Tells rely R s tr := by
  apply h.bind (f := ExceptT.bindCont f)
  intro r s tr hr
  cases r with
  | error e => exact he e s tr hr
  | ok a => exact hf a s tr hr

theorem lift {Q : Except ε α → σ → List Exchange → Prop}
    (h : t.Tells rely (fun a ↦ Q (.ok a)) s tr) :
    (ExceptT.lift t : ExceptT ε (Task γ σ) α).run.Tells rely Q s tr := h.bind fun _ _ _ hq ↦ hq

theorem lift_bind {R : Except ε β → σ → List Exchange → Prop} {f : α → ExceptT ε (Task γ σ) β}
    (h : t.Tells rely Q s tr) (hf : ∀ a s tr, Q a s tr → (f a).run.Tells rely R s tr) :
    (ExceptT.lift t >>= f).run.Tells rely R s tr := by
  apply except_bind (Q := fun r s tr ↦ ∃ a, r = .ok a ∧ Q a s tr)
  · exact lift (h.mono fun a _ _ hq ↦ ⟨a, rfl, hq⟩)
  · rintro _ s tr ⟨a, ⟨⟩, hq⟩
    exact hf _ s tr hq
  · rintro _ s tr ⟨a, ⟨⟩, hq⟩

theorem zoom {part : τ → σ} {put : σ → τ → τ} {gate : γ → γ'} {rely' : τ → τ → Prop} {s : τ}
    (hp : ∀ a t, part (put a t) = a) (hr : ∀ s t, rely' s t → rely (part s) (part t))
    (h : t.Tells rely Q (part s) tr) :
    (t.zoom part put gate).Tells rely' (fun a s tr ↦ Q a (part s) tr) s tr := by
  induction t generalizing s tr with
  | done a => exact h
  | look k ih => exact ih _ h
  | update f next ih =>
    refine ih ?_
    rwa [hp]
  | send r k ih => exact fun o t ht ↦ ih o (h o _ (hr s t ht))
  | lock g next ih => exact fun t ht ↦ ih (h _ (hr s t ht))
  | unlock g next ih => exact ih h
  | both l r k => exact h

end Tells

end Task

/-- A network that keeps the exchanges, and makes of the state what a wait may make of it. -/
def Network.Keeping {σ : Type} (net : Network (σ × List Exchange)) (rely : σ → σ → Prop) : Prop :=
  ∀ r p, ∃ o, (net r p).2.2 = ⟨r, o⟩ :: p.2 ∧ rely p.1 (net r p).2.1 ∧
    ((net r p).1 = .atOnce o ∨ ∃ delay, (net r p).1 = .after delay o)

namespace Backend

variable {backend : Backend} {tr later later' : List Exchange}

/-- Whether the exchanges that came after `tr` are as the backend answers. -/
def Gave (backend : Backend) (tr : List Exchange) : List Exchange → Prop
  | [] => True
  | e :: later => e.outcome = backend (later ++ tr) e.request ∧ backend.Gave tr later

theorem gave_append : backend.Gave tr (later' ++ later) ↔
    backend.Gave (later ++ tr) later' ∧ backend.Gave tr later := by
  induction later' with
  | nil => simp [Gave]
  | cons e later' ih => simp [Gave, ih, and_assoc]

end Backend

namespace Machine

variable {γ σ : Type} [DecidableEq γ] {α : Type} {rely : σ → σ → Prop}
  {net : Network (σ × List Exchange)} {Q : α → σ → List Exchange → Prop}

/-- A task that nothing runs beside comes to its end on any network, as its exchanges tell. What the network
keeps true of the exchanges is true of them then. -/
theorem ends_of_tells (hn : net.Keeping rely) (hr : ∀ s, rely s s) {W : List Exchange → Prop}
    (hw : ∀ r p, W p.2 → W (net r p).2.2) {R : α → List γ → Prop} {t : Task γ σ α} {held : List γ}
    (ho : t.Orderly held R) {p : σ × List Exchange} (ht : t.Tells rely Q p.1 p.2) (hp : W p.2) :
    ∃ a s tr, Q a s tr ∧ W tr ∧ ∀ m : Machine γ (σ × List Exchange), m.Idle held → m.state = p →
      Ends net t.logged m a (s, tr) := by
  -- The network alone fixes the result and the state, so both are found before any machine is.
  induction t generalizing p held with
  | done a => exact ⟨a, p.1, p.2, ht, hp, fun m _ hs ↦ ⟨0, fun n _ ↦ ⟨m, settle_finished _ n a m, hs⟩⟩⟩
  | look k ih =>
    obtain ⟨a, s, tr, hq, hw, he⟩ := ih p.1 (ho _) ht hp
    refine ⟨a, s, tr, hq, hw, fun m hm hs ↦ ?_⟩
    subst hs
    exact he m hm rfl
  | update f next ih =>
    obtain ⟨a, s, tr, hq, hw, he⟩ := ih ho (p := (f p.1, p.2)) ht hp
    refine ⟨a, s, tr, hq, hw, fun m hm hs ↦ ?_⟩
    subst hs
    exact he { m with state := (f m.state.1, m.state.2) } (hm.update _) rfl
  | send r k ih =>
    obtain ⟨o, htr, hs, hd⟩ := hn r p
    have hp' := hw r p hp
    cases hnet : net r p with
    | mk d q =>
      rw [hnet] at htr hs hd hp'
      obtain ⟨a, s, tr, hq, hw, he⟩ := ih o (ho o) (p := q) (htr ▸ ht o _ hs) hp'
      refine ⟨a, s, tr, hq, hw, fun m hm hp ↦ ?_⟩
      subst hp
      rcases hd with rfl | ⟨delay, rfl⟩
      · exact ends_atOnce hnet (he { m with state := q } (hm.update q) rfl)
      · exact ends_send hm hnet he
  | lock g next ih =>
    obtain ⟨a, s, tr, hq, hw, he⟩ := ih ho.2 (ht _ (hr _)) hp
    exact ⟨a, s, tr, hq, hw, fun m hm hs ↦
      ends_lock hm ho.1 fun m' hm' hs' ↦ he m' hm' (hs'.trans hs)⟩
  | unlock g next ih =>
    obtain ⟨rest, rfl, ho⟩ := ho
    obtain ⟨a, s, tr, hq, hw, he⟩ := ih ho ht hp
    exact ⟨a, s, tr, hq, hw, fun m hm hs ↦
      ends_unlock hm fun m' hm' hs' ↦ he m' hm' (hs'.trans hs)⟩
  | both l r k => exact ho.elim

theorem Ends.eq_of_run {σ : Type} {net : Network σ} {t : Task γ σ α} {p : σ} {a b : α} {s : σ}
    (h : Ends net t (start p) a s) {events : Nat} {m : Machine γ σ}
    (hr : run net events t p = (some b, m)) : b = a ∧ m.state = s := by
  obtain ⟨least, hl⟩ := h
  obtain ⟨m', hm', hs⟩ := hl (max least events) (Nat.le_max_left _ _)
  have he := settle_mono hr (Nat.le_max_right least events)
  obtain ⟨ha, rfl⟩ := Prod.mk.inj (he.symm.trans hm')
  exact ⟨Option.some.inj ha, hs⟩

end Machine

variable {γ σ π : Type} {α : Type} {Q : α → List Exchange → Prop} {log : List Exchange}

/-- What a task comes to after some exchanges is told by those that it adds, whatever others do as it
waits. -/
def Task.Recounts (Q : α → List Exchange → Prop) (t : Task γ σ α) (log : List Exchange) : Prop :=
  ∀ s, t.Tells (fun _ _ ↦ True) (fun a _ log ↦ Q a log) s log

theorem Task.Spares.recounts {part : σ → π} {free : γ → Prop} {t : Task γ σ α}
    (h : t.Spares part free) : t.Recounts (fun _ _ ↦ True) log := by
  intro s
  have hs := h.sparesFrom s
  clear h
  induction t generalizing s log with
  | done a => trivial
  | look k ih => exact ih s s hs
  | update f next ih => exact ih _ hs.2
  | send r k ih => exact fun o s' _ ↦ ih o s' (hs o s')
  | lock g next ih => exact fun s' _ ↦ ih s' (hs.2 s')
  | unlock g next ih => exact ih s hs.2
  | both l r k => exact hs

namespace Strand

def Recounts : {α : Type} → (α → List Exchange → Prop) → Strand γ σ α → List Exchange → Prop
  | _, Q, ready t, log => t.Recounts Q log
  | _, Q, sent r k, log => ∀ o, (k o).Recounts Q (⟨r, o⟩ :: log)
  | _, Q, queued _ next, log => next.Recounts Q log
  | _, Q, ended a, log => Q a log
  | _, _, pair _ _ _, _ => False

end Strand

variable [DecidableEq γ]

theorem Task.Recounts.park {t : Task γ σ α} (h : t.Recounts Q log) (s : Share γ σ) :
    (t.park s).1.Recounts Q log := by
  have hs := h s.state
  clear h
  induction t generalizing s with
  | done a => exact hs
  | look k ih => exact ih _ s hs
  | update f next ih => exact ih _ hs
  | send r k => exact fun o s' ↦ hs o s' trivial
  | lock g next => exact fun s' ↦ hs s' trivial
  | unlock g next ih => exact ih _ hs
  | both l r k => exact hs

theorem Strand.Recounts.go {st st' : Strand γ σ α} (h : st.Recounts Q log) {t : Turn}
    {s s' : Share γ σ} (hg : st.go t s = some (st', s')) :
    st'.Recounts Q ((st.exchange? t).toList ++ log) := by
  obtain ⟨u, x, hr, he⟩ | ⟨_, _, l, r, k, rfl⟩ := resumes_of_go hg
  · have hu : u.Recounts Q ((st.exchange? t).toList ++ log) := by
      cases hr with
      | start => exact h
      | answer r k o => exact h o
      | grant => exact h
    have hp := hu.park x
    rwa [he] at hp
  · exact h.elim

end Backoffice
