import Backoffice.Proofs.Task.Interleaving

namespace Backoffice

variable {ι γ σ : Type} {α : Type}

/-- Tasks side by side, each known by its place among them, and the line of those that wait for a lock. -/
structure Lineup (ι γ σ α : Type) where
  pool : Pool ι γ σ α
  line : List Nat

namespace Lineup

def empty (state : σ) : Lineup ι γ σ α := ⟨.empty state, []⟩

def member? (p : Lineup ι γ σ α) (n : Nat) : Option (Member ι γ σ α) := p.pool.members[n]?

def result? (p : Lineup ι γ σ α) (n : Nat) : Option α := (p.member? n).bind Member.result?

def record (p : Lineup ι γ σ α) (n : Nat) : Record := ((p.member? n).map Member.record).getD ⟨[], []⟩

theorem lt_of_member? {p : Lineup ι γ σ α} {n : Nat} {m : Member ι γ σ α} (h : p.member? n = some m) :
    n < p.pool.members.length := (List.getElem?_eq_some_iff.mp h).1

def join (p : Lineup ι γ σ α) (job : ι) (task : Task γ σ α) : Lineup ι γ σ α :=
  { p with pool := { p.pool with members := p.pool.members ++ [⟨job, [], .ready task⟩] } }

end Lineup

variable [DecidableEq γ]

def Strand.awaits (g : γ) : {α : Type} → Strand γ σ α → Bool
  | _, queued g' _ => g' = g
  | _, _ => false

namespace Lineup

def moved (g : γ) (n : Nat) (before after : Strand γ σ α) (line : List Nat) : List Nat :=
  (if before.awaits g then line.tail else line) ++ if after.awaits g then [n] else []

def turned (g : γ) (n : Nat) (p : Lineup ι γ σ α) (m m' : Member ι γ σ α) (s' : Share γ σ) :
    Lineup ι γ σ α :=
  ⟨⟨s', p.pool.members.set n m'⟩, moved g n m.strand m'.strand p.line⟩

inductive Step (S : Setting ι γ σ α) (g : γ) : Lineup ι γ σ α → Lineup ι γ σ α → Prop
  | join {p : Lineup ι γ σ α} (job : ι) (hj : S.admits job) : Step S g p (p.join job (S.task job))
  | turn {p : Lineup ι γ σ α} {n : Nat} {m m' : Member ι γ σ α} {s' : Share γ σ} (t : Turn)
      (hm : p.member? n = some m) (ha : S.allows p.pool.records m.record t)
      (hg : m.go t p.pool.share = some (m', s'))
      (hf : m.strand.awaits g = true → p.line.head? = some n) : Step S g p (p.turned g n m m' s')
  | pass {p : Lineup ι γ σ α} {state : σ} (hp : S.passes p.pool.share.state state) :
      Step S g p { p with pool := { p.pool with share := { p.pool.share with state } } }

abbrev Later (S : Setting ι γ σ α) (g : γ) : Lineup ι γ σ α → Lineup ι γ σ α → Prop :=
  Relation.ReflTransGen (Step S g)

variable {S : Setting ι γ σ α} {g : γ} {p q : Lineup ι γ σ α}

theorem Step.member?_of_ended (hs : Step S g p q) {n : Nat} {m : Member ι γ σ α} {a : α}
    (hm : p.member? n = some m) (hr : m.result? = some a) : q.member? n = some m := by
  cases hs with
  | join job hj => exact (List.getElem?_append_left (lt_of_member? hm)).trans hm
  | pass hp => exact hm
  | @turn k m₀ m' s' t hm₀ ha hg hf =>
    have hne : k ≠ n := by
      rintro rfl
      obtain rfl : m₀ = m := Option.some.inj (hm₀.symm.trans hm)
      obtain ⟨job, log, strand⟩ := m₀
      cases strand with
      | ended b => cases t <;> cases hg
      | _ => cases hr
    exact (List.getElem?_set_ne hne).trans hm

theorem Later.member?_of_ended (hl : Later S g p q) {n : Nat} {m : Member ι γ σ α} {a : α}
    (hm : p.member? n = some m) (hr : m.result? = some a) : q.member? n = some m := by
  induction hl with
  | refl => exact hm
  | tail _ hs ih => exact hs.member?_of_ended ih hr

variable (S g) [DecidablePred S.admits] [∀ rs r, DecidablePred (S.allows rs r)]

def after (p : Lineup ι γ σ α) : Event ι → Option (Lineup ι γ σ α)
  | .join job => if S.admits job then some (p.join job (S.task job)) else none
  | .turn n t =>
    match p.member? n with
    | none => none
    | some m =>
      if S.allows p.pool.records m.record t ∧ (m.strand.awaits g = true → p.line.head? = some n) then
        (m.go t p.pool.share).map fun x ↦ p.turned g n m x.1 x.2
      else none

def play (p : Lineup ι γ σ α) (events : List (Event ι)) : Option (Lineup ι γ σ α) :=
  events.foldlM (after S g) p

variable {S g}

theorem step_of_after {e : Event ι} (h : p.after S g e = some q) : Step S g p q := by
  cases e with
  | join job =>
    simp only [after, Option.ite_none_right_eq_some, Option.some.injEq] at h
    obtain ⟨hj, rfl⟩ := h
    exact .join job hj
  | turn n t =>
    simp only [after] at h
    split at h
    · cases h
    · next m hm =>
      simp only [Option.ite_none_right_eq_some, Option.map_eq_some_iff] at h
      obtain ⟨⟨ha, hf⟩, ⟨m', s'⟩, hg, rfl⟩ := h
      exact .turn t hm ha hg hf

theorem later_of_play {events : List (Event ι)} (h : p.play S g events = some q) : Later S g p q := by
  induction events generalizing p with
  | nil =>
    cases h
    exact .refl
  | cons e events ih =>
    simp only [play, List.foldlM_cons, Option.bind_eq_bind, Option.bind_eq_some_iff] at h
    obtain ⟨p', hp, hq⟩ := h
    exact .head (step_of_after hp) (ih hq)

theorem exists_step_of_play (events : List (Event ι)) (e : Event ι)
    {P : Lineup ι γ σ α → Lineup ι γ σ α → Prop} [∀ a b, Decidable (P a b)]
    (h : ((p.play S g events).any fun a ↦ (a.after S g e).any fun b ↦ decide (P a b)) = true) :
    ∃ a b, Later S g p a ∧ Step S g a b ∧ P a b := by
  simp only [Option.any_eq_true, decide_eq_true_eq] at h
  obtain ⟨a, ha, b, hb, hP⟩ := h
  exact ⟨a, b, later_of_play ha, step_of_after hb, hP⟩

end Lineup

end Backoffice
