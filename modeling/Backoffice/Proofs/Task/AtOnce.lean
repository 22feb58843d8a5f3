import Backoffice.Proofs.Task.Interleaving
import Backoffice.Proofs.Task.Safety

namespace Backoffice

variable {γ σ : Type} {α : Type}

def Terms.atOnce : Terms σ where
  holds := fun _ ↦ False
  rely := fun _ _ ↦ True
  sends := fun _ ↦ False
  refl := fun _ ↦ trivial
  trans := fun _ _ ↦ trivial

theorem Terms.sent_atOnce {tr tr' : List Exchange} (h : (Terms.atOnce (σ := σ)).Sent tr tr') :
    tr' = tr := by
  obtain ⟨later, he, hs⟩ := h
  cases later with
  | nil => exact he
  | cons e later => exact (hs e List.mem_cons_self).elim

abbrev Task.AtOnce (t : Task γ σ α) (Q : α → σ → Prop) (s : σ) : Prop := t.Safe .atOnce Q s

namespace Task.AtOnce

variable {Q : α → σ → Prop} {t : Task γ σ α}

theorem zoom {γ' τ : Type} {part : τ → σ} {put : σ → τ → τ} {gate : γ → γ'}
    (hp : ∀ a t, part (put a t) = a) {s : τ} (h : t.AtOnce Q (part s)) :
    (t.zoom part put gate).AtOnce (fun a s ↦ Q a (part s)) s := by
  have hz : Zooms part put (fun _ ↦ True) (Terms.atOnce (σ := σ)) .atOnce :=
    ⟨hp, fun _ _ _ ↦ trivial, fun h _ ↦ h, fun h _ _ _ ↦ h.elim, id⟩
  exact (Safe.zoom hz h trivial).mono fun _ _ h ↦ h.1

theorem and {Q' : α → σ → Prop} {s : σ} (h : t.AtOnce Q s) (h' : t.AtOnce Q' s) :
    t.AtOnce (fun a s ↦ Q a s ∧ Q' a s) s := by
  induction t generalizing s with
  | done a => exact ⟨h, h'⟩
  | look k ih => exact ih s h h'
  | update f next ih => exact ih h h'
  | send r k => exact h.1.elim
  | lock g next => exact h.1.elim
  | unlock g next ih => exact ih h h'
  | both l r k =>
    obtain ⟨J, hu, hJ, -⟩ := h
    exact (hu.of_holds hJ).elim

theorem safe {T : Terms σ} {s : σ} (h : t.AtOnce Q s) : t.Safe T Q s :=
  Safe.weaken h False.elim (fun h ↦ h.elim) False.elim

variable [DecidableEq γ]

theorem advance {m : Machine γ σ} (h : t.AtOnce Q m.state) (net : Network σ) :
    ∃ a m', Machine.advance net t m = (.finished a, m') ∧ Q a m'.state := by
  induction t generalizing m with
  | done a => exact ⟨a, m, rfl, h⟩
  | look k ih => exact ih m.state h
  | update f next ih => exact ih (m := { m with state := f m.state }) h
  | send r k => exact h.1.elim
  | lock g next => exact h.1.elim
  | unlock g next ih =>
    have hs : (m.free g).state = m.state := by unfold Machine.free; split <;> rfl
    exact ih (m := m.free g) (by rwa [hs])
  | both l r k =>
    obtain ⟨J, hu, hJ, -⟩ := h
    exact (hu.of_holds hJ).elim

theorem park {s : Share γ σ} (h : t.AtOnce Q s.state) :
    ∃ a, (t.park s).1 = .ended a ∧ Q a (t.park s).2.state := by
  induction t generalizing s with
  | done a => exact ⟨a, rfl, h⟩
  | look k ih => exact ih s.state h
  | update f next ih => exact ih (s := { s with state := f s.state }) h
  | send r k => exact h.1.elim
  | lock g next => exact h.1.elim
  | unlock g next ih => exact ih (s := { s with held := s.held.erase g }) h
  | both l r k =>
    obtain ⟨J, hu, hJ, -⟩ := h
    exact (hu.of_holds hJ).elim

theorem run {s : σ} (h : t.AtOnce Q s) {net : Network (σ × List Exchange)} {events : Nat}
    {tr : List Exchange} {a : α} {m : Machine γ (σ × List Exchange)}
    (hr : Machine.run net events t.logged (s, tr) = (some a, m)) : Q a m.state.1 ∧ m.state.2 = tr := by
  have hn : net.Keeps ((Terms.atOnce (σ := σ)).logged tr) := fun _ _ h ↦ h.1.elim
  obtain ⟨hq, hs⟩ := Machine.run_safe hn events (h.logged tr) hr
  exact ⟨hq, Terms.sent_atOnce hs⟩

theorem exists_run {s : σ} (h : t.AtOnce Q s) (net : Network (σ × List Exchange))
    (tr : List Exchange) : ∃ a m, Machine.run net 0 t.logged (s, tr) = (some a, m) := by
  have hl : t.logged.AtOnce (fun a p ↦ Q a p.1) (s, tr) := h.zoom fun _ _ ↦ rfl
  obtain ⟨a, m, he, -⟩ := hl.advance (m := .start (s, tr)) net
  exact ⟨a, m, by rw [Machine.run, he]; rfl⟩

end Task.AtOnce

end Backoffice
