import Backoffice.Task.Basic

namespace Backoffice

open Web (Request Outcome)

/-- How a request fares: it is settled at once, or its outcome comes after some milliseconds. -/
inductive Delivery where
  | atOnce (o : Outcome)
  | after (delay : Nat) (o : Outcome)

/-- What carries requests. It keeps what it has to know in a part of the state. -/
abbrev Network (σ : Type) := Request → σ → Delivery × σ

structure Arrival where
  time : Nat
  ticket : Nat
  outcome : Outcome

structure Machine (γ σ : Type) where
  state : σ
  clock : Nat
  tickets : Nat
  underway : List Arrival
  held : List γ
  waiting : List (γ × Nat)
  granted : List Nat

/-- A task that has run up to its waits. -/
inductive Thread (γ σ : Type) : Type → Type 1 where
  | finished {α : Type} (a : α) : Thread γ σ α
  | awaiting {α : Type} (ticket : Nat) (k : Outcome → Task γ σ α) : Thread γ σ α
  | queued {α : Type} (ticket : Nat) (next : Task γ σ α) : Thread γ σ α
  | pair {α β δ : Type} (l : Thread γ σ α) (r : Thread γ σ β) (k : α → β → Task γ σ δ) :
      Thread γ σ δ

namespace Machine

variable {γ σ : Type} [DecidableEq γ] {α β : Type}

def start (state : σ) : Machine γ σ := ⟨state, 0, 0, [], [], [], []⟩

def free (m : Machine γ σ) (g : γ) : Machine γ σ :=
  match m.waiting.find? (·.1 = g) with
  | some w => { m with waiting := m.waiting.erase w, granted := m.granted ++ [w.2] }
  | none => { m with held := m.held.erase g }

def advance (net : Network σ) :
    {α : Type} → Task γ σ α → Machine γ σ → Thread γ σ α × Machine γ σ
  | _, .done a, m => (.finished a, m)
  | _, .look k, m => advance net (k m.state) m
  | _, .update f next, m => advance net next { m with state := f m.state }
  | _, .send r k, m =>
    match net r m.state with
    | (.atOnce o, state) => advance net (k o) { m with state }
    | (.after delay o, state) =>
      (.awaiting m.tickets k, { m with
        state
        tickets := m.tickets + 1
        underway := m.underway ++ [⟨m.clock + delay, m.tickets, o⟩] })
  | _, .lock g next, m =>
    if g ∈ m.held then
      (.queued m.tickets next, { m with
        tickets := m.tickets + 1
        waiting := m.waiting ++ [(g, m.tickets)] })
    else advance net next { m with held := g :: m.held }
  | _, .unlock g next, m => advance net next (m.free g)
  | _, .both l r k, m =>
    let (l, m) := advance net l m
    let (r, m) := advance net r m
    match l, r with
    | .finished a, .finished b => advance net (k a b) m
    | l, r => (.pair l r k, m)

def wake (net : Network σ) (ticket : Nat) (o : Outcome) :
    {α : Type} → Thread γ σ α → Machine γ σ → Thread γ σ α × Machine γ σ
  | _, .finished a, m => (.finished a, m)
  | _, .awaiting t k, m => if t = ticket then advance net (k o) m else (.awaiting t k, m)
  | _, .queued t next, m => if t = ticket then advance net next m else (.queued t next, m)
  | _, .pair l r k, m =>
    let (l, m) := wake net ticket o l m
    let (r, m) := wake net ticket o r m
    match l, r with
    | .finished a, .finished b => advance net (k a b) m
    | l, r => (.pair l r k, m)

def earliest : List Arrival → Option Arrival
  | [] => none
  | a :: rest =>
    match earliest rest with
    | some b => if b.time < a.time then some b else some a
    | none => some a

def step (net : Network σ) (t : Thread γ σ α) (m : Machine γ σ) :
    Option (Thread γ σ α × Machine γ σ) :=
  match m.granted with
  | ticket :: granted => some (wake net ticket none t { m with granted })
  | [] =>
    match earliest m.underway with
    | some a =>
      some (wake net a.ticket a.outcome t { m with
        clock := max m.clock a.time
        underway := m.underway.filter (·.ticket ≠ a.ticket) })
    | none => none

def settle (net : Network σ) : Nat → Thread γ σ α → Machine γ σ → Option α × Machine γ σ
  | _, .finished a, m => (some a, m)
  | 0, _, m => (none, m)
  | n + 1, t, m =>
    match step net t m with
    | some (t, m) => settle net n t m
    | none => (none, m)

def run (net : Network σ) (events : Nat) (t : Task γ σ α) (state : σ) :
    Option α × Machine γ σ :=
  let (thread, m) := advance net t (start state)
  settle net events thread m

end Machine

end Backoffice
