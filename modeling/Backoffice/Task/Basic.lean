import Backoffice.Web.Message

namespace Backoffice

open Web (Request Outcome)

/-- A task on a state `σ` with locks `γ` that comes to an `α`. -/
inductive Task (γ σ : Type) : Type → Type 1 where
  | done {α : Type} (a : α) : Task γ σ α
  | look {α : Type} (k : σ → Task γ σ α) : Task γ σ α
  | update {α : Type} (f : σ → σ) (next : Task γ σ α) : Task γ σ α
  | send {α : Type} (r : Request) (k : Outcome → Task γ σ α) : Task γ σ α
  | lock {α : Type} (g : γ) (next : Task γ σ α) : Task γ σ α
  | unlock {α : Type} (g : γ) (next : Task γ σ α) : Task γ σ α
  /-- Two tasks side by side, and what follows when both are done. -/
  | both {α β δ : Type} (l : Task γ σ α) (r : Task γ σ β) (k : α → β → Task γ σ δ) : Task γ σ δ

namespace Task

variable {γ γ' σ τ : Type} {α β δ : Type}

def bind : Task γ σ α → (α → Task γ σ β) → Task γ σ β
  | done a, f => f a
  | look k, f => look fun s ↦ (k s).bind f
  | update g next, f => update g (next.bind f)
  | send r k, f => send r fun o ↦ (k o).bind f
  | lock g next, f => lock g (next.bind f)
  | unlock g next, f => unlock g (next.bind f)
  | both l r k, f => both l r fun a b ↦ (k a b).bind f

instance : Monad (Task γ σ) where
  pure := done
  bind := bind

@[simp] theorem pure_eq (a : α) : (pure a : Task γ σ α) = done a := rfl

@[simp] theorem bind_eq (t : Task γ σ α) (f : α → Task γ σ β) : t >>= f = t.bind f := rfl

@[simp] theorem done_bind (a : α) (f : α → Task γ σ β) : (done a).bind f = f a := rfl

@[simp] theorem bind_done (t : Task γ σ α) : t.bind done = t := by
  induction t <;> simp_all [bind]

theorem bind_assoc (t : Task γ σ α) (f : α → Task γ σ β) (g : β → Task γ σ δ) :
    (t.bind f).bind g = t.bind fun a ↦ (f a).bind g := by
  induction t <;> simp_all [bind]

def state (act : StateM σ α) : Task γ σ α :=
  look fun s ↦ update (fun _ ↦ (act s).2) (done (act s).1)

instance : MonadLift (StateM σ) (Task γ σ) := ⟨state⟩

def request (r : Request) : Task γ σ Outcome := send r done

def acquire (g : γ) : Task γ σ Unit := lock g (done ())

def release (g : γ) : Task γ σ Unit := unlock g (done ())

def zoom (part : τ → σ) (put : σ → τ → τ) (gate : γ → γ') :
    {α : Type} → Task γ σ α → Task γ' τ α
  | _, done a => done a
  | _, look k => look fun t ↦ (k (part t)).zoom part put gate
  | _, update f next => update (fun t ↦ put (f (part t)) t) (next.zoom part put gate)
  | _, send r k => send r fun o ↦ (k o).zoom part put gate
  | _, lock g next => lock (gate g) (next.zoom part put gate)
  | _, unlock g next => unlock (gate g) (next.zoom part put gate)
  | _, both l r k =>
    both (l.zoom part put gate) (r.zoom part put gate) fun a b ↦ (k a b).zoom part put gate

def all : List (Task γ σ α) → Task γ σ (List α)
  | [] => done []
  | t :: ts => both t (all ts) fun a as ↦ done (a :: as)

def inTurn : List (Task γ σ α) → Task γ σ (List α)
  | [] => done []
  | t :: ts => t.bind fun a ↦ (inTurn ts).bind fun as ↦ done (a :: as)

end Task

end Backoffice
