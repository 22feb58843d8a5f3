import Backoffice.Task.Basic

namespace Backoffice

open Web (Request Outcome)

structure Exchange where
  request : Request
  outcome : Outcome

/-- What answers requests, knowing the exchanges before, the latest first. -/
abbrev Backend := List Exchange → Request → Outcome

def Backend.ofFunction (f : Request → Outcome) : Backend := fun _ r ↦ f r

namespace Task

variable {γ σ : Type} {α β : Type}

structure Run (σ α : Type) where
  result : α
  state : σ
  trace : List Exchange

def run (backend : Backend) : {α : Type} → Task γ σ α → σ → List Exchange → Run σ α
  | _, done a, s, tr => ⟨a, s, tr⟩
  | _, look k, s, tr => (k s).run backend s tr
  | _, update f next, s, tr => next.run backend (f s) tr
  | _, send r k, s, tr =>
    let o := backend tr r
    (k o).run backend s (⟨r, o⟩ :: tr)
  | _, lock _ next, s, tr => next.run backend s tr
  | _, unlock _ next, s, tr => next.run backend s tr
  | _, both l r k, s, tr =>
    let a := l.run backend s tr
    let b := r.run backend a.state a.trace
    (k a.result b.result).run backend b.state b.trace

theorem run_bind (backend : Backend) (t : Task γ σ α) (f : α → Task γ σ β) (s : σ)
    (tr : List Exchange) :
    (t.bind f).run backend s tr =
      let a := t.run backend s tr
      (f a.result).run backend a.state a.trace := by
  induction t generalizing s tr <;> simp_all [bind, run]

theorem run_state (backend : Backend) (act : StateM σ α) (s : σ) (tr : List Exchange) :
    (state act : Task γ σ α).run backend s tr = ⟨(act s).1, (act s).2, tr⟩ := rfl

end Task

end Backoffice
