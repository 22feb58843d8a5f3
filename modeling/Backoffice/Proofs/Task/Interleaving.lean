import Mathlib.Logic.Relation
import Backoffice.Except
import Backoffice.Task.Alone

namespace Backoffice

open Web (Request Outcome)

structure Share (γ σ : Type) where
  state : σ
  held : List γ

/-- A task that others run beside: it has not begun, or it waits, or it has ended. -/
inductive Strand (γ σ : Type) : Type → Type 1 where
  | ready {α : Type} (t : Task γ σ α) : Strand γ σ α
  | sent {α : Type} (r : Request) (k : Outcome → Task γ σ α) : Strand γ σ α
  | queued {α : Type} (g : γ) (next : Task γ σ α) : Strand γ σ α
  | ended {α : Type} (a : α) : Strand γ σ α
  | pair {α β δ : Type} (l : Strand γ σ α) (r : Strand γ σ β) (k : α → β → Task γ σ δ) :
      Strand γ σ δ

/-- What a strand goes on with. Of two side by side, `left` or `right` says which. -/
inductive Turn where
  | start
  | answer (o : Outcome)
  | grant
  | join
  | left (t : Turn)
  | right (t : Turn)

namespace Turn

def outcome? : Turn → Option Outcome
  | answer o => some o
  | _ => none

def receive (status : Nat) (body : String) : Turn :=
  answer (some ⟨status, body.toUTF8.data.toList⟩)

end Turn

variable {ι γ σ : Type} {α β : Type} [DecidableEq γ]

def Task.park : {α : Type} → Task γ σ α → Share γ σ → Strand γ σ α × Share γ σ
  | _, .done a, s => (.ended a, s)
  | _, .look k, s => (k s.state).park s
  | _, .update f next, s => next.park { s with state := f s.state }
  | _, .send r k, s => (.sent r k, s)
  | _, .lock g next, s => (.queued g next, s)
  | _, .unlock g next, s => next.park { s with held := s.held.erase g }
  | _, .both l r k, s => (.pair (.ready l) (.ready r) k, s)

namespace Strand

def go : {α : Type} → Strand γ σ α → Turn → Share γ σ → Option (Strand γ σ α × Share γ σ)
  | _, ready t, .start, s => some (t.park s)
  | _, sent _ k, .answer o, s => some ((k o).park s)
  | _, queued g next, .grant, s =>
    if g ∈ s.held then none else some (next.park { s with held := g :: s.held })
  | _, pair (ended a) (ended b) k, .join, s => some ((k a b).park s)
  | _, pair l r k, .left t, s => (l.go t s).map fun p ↦ (pair p.1 r k, p.2)
  | _, pair l r k, .right t, s => (r.go t s).map fun p ↦ (pair l p.1 k, p.2)
  | _, _, _, _ => none

def underway : {α : Type} → Strand γ σ α → List Request
  | _, sent r _ => [r]
  | _, pair l r _ => l.underway ++ r.underway
  | _, _ => []

def result? : {α : Type} → Strand γ σ α → Option α
  | _, ended a => some a
  | _, _ => none

def exchange? : {α : Type} → Strand γ σ α → Turn → Option Exchange
  | _, sent r _, .answer o => some ⟨r, o⟩
  | _, pair l _ _, .left t => l.exchange? t
  | _, pair _ r _, .right t => r.exchange? t
  | _, _, _ => none

end Strand

structure Record where
  log : List Exchange
  underway : List Request

structure Member (ι γ σ α : Type) where
  job : ι
  log : List Exchange
  strand : Strand γ σ α

namespace Member

def record (m : Member ι γ σ α) : Record := ⟨m.log, m.strand.underway⟩

def result? (m : Member ι γ σ α) : Option α := m.strand.result?

def go (m : Member ι γ σ α) (t : Turn) (s : Share γ σ) : Option (Member ι γ σ α × Share γ σ) :=
  (m.strand.go t s).map fun p ↦
    ({ m with log := (m.strand.exchange? t).toList ++ m.log, strand := p.1 }, p.2)

end Member

structure Pool (ι γ σ α : Type) where
  share : Share γ σ
  members : List (Member ι γ σ α)

/-- In which circumstances tasks run: what each job is, which jobs may join, which turns may be taken
in a pool, and how the state may change while all wait. -/
structure Setting (ι γ σ α : Type) where
  task : ι → Task γ σ α
  admits : ι → Prop
  allows : List Record → Record → Turn → Prop
  passes : σ → σ → Prop

namespace Pool

variable {S : Setting ι γ σ α}

def empty (state : σ) : Pool ι γ σ α := ⟨⟨state, []⟩, []⟩

def records (p : Pool ι γ σ α) : List Record := p.members.map Member.record

inductive Step (S : Setting ι γ σ α) : Pool ι γ σ α → Pool ι γ σ α → Prop
  | join {p : Pool ι γ σ α} (job : ι) (hj : S.admits job) :
      Step S p { p with members := p.members ++ [⟨job, [], .ready (S.task job)⟩] }
  | turn {s s' : Share γ σ} {before after : List (Member ι γ σ α)} {m m' : Member ι γ σ α} (t : Turn)
      (ha : S.allows (records ⟨s, before ++ m :: after⟩) m.record t) (hg : m.go t s = some (m', s')) :
      Step S ⟨s, before ++ m :: after⟩ ⟨s', before ++ m' :: after⟩
  | pass {p : Pool ι γ σ α} {state : σ} (hp : S.passes p.share.state state) :
      Step S p { p with share := { p.share with state } }

def Later (S : Setting ι γ σ α) : Pool ι γ σ α → Pool ι γ σ α → Prop := Relation.ReflTransGen (Step S)

end Pool

/-- What one lets happen in a pool: a task joins, or the one at a place takes a turn. -/
inductive Event (ι : Type) where
  | join (job : ι)
  | turn (n : Nat) (t : Turn)

namespace Pool

variable (S : Setting ι γ σ α) [DecidablePred S.admits] [∀ rs r, DecidablePred (S.allows rs r)]

def after (p : Pool ι γ σ α) : Event ι → Option (Pool ι γ σ α)
  | .join job =>
    if S.admits job then some { p with members := p.members ++ [⟨job, [], .ready (S.task job)⟩] }
    else none
  | .turn n t =>
    match p.members.drop n with
    | [] => none
    | m :: rest =>
      if S.allows p.records m.record t then
        (m.go t p.share).map fun q ↦ ⟨q.2, p.members.take n ++ q.1 :: rest⟩
      else none

def play (p : Pool ι γ σ α) (events : List (Event ι)) : Option (Pool ι γ σ α) :=
  events.foldlM (after S) p

variable {S} {p q : Pool ι γ σ α}

theorem after_turn {n : Nat} {t : Turn} (h : p.after S (.turn n t) = some q) :
    ∃ before m after m' s', p = ⟨p.share, before ++ m :: after⟩ ∧ before.length = n ∧
      S.allows p.records m.record t ∧ m.go t p.share = some (m', s') ∧
      q = ⟨s', before ++ m' :: after⟩ := by
  obtain ⟨share, members⟩ := p
  simp only [after] at h
  split at h
  · cases h
  · next m rest hd =>
    simp only [Option.ite_none_right_eq_some, Option.map_eq_some_iff] at h
    obtain ⟨ha, ⟨m', s'⟩, hg, rfl⟩ := h
    have hn : n < members.length := by
      have hl := congrArg List.length hd
      rw [List.length_drop, List.length_cons] at hl
      omega
    have hm : members = members.take n ++ m :: rest := by rw [← hd, List.take_append_drop]
    exact ⟨members.take n, m, rest, m', s', congrArg (Pool.mk share) hm,
      List.length_take_of_le (Nat.le_of_lt hn), ha, hg, rfl⟩

theorem exists_after {n : Nat} {t : Turn} {m : Member ι γ σ α} (hm : p.members[n]? = some m)
    (ha : S.allows p.records m.record t) (hg : (m.go t p.share).isSome) :
    ∃ q, p.after S (.turn n t) = some q := by
  obtain ⟨hn, he⟩ := List.getElem?_eq_some_iff.mp hm
  obtain ⟨x, hx⟩ := Option.isSome_iff_exists.mp hg
  have hd : p.members.drop n = m :: p.members.drop (n + 1) := by
    rw [List.drop_eq_getElem_cons hn, he]
  simp only [after, hd, if_pos ha, hx]
  exact ⟨_, rfl⟩

theorem step_of_after {e : Event ι} (h : p.after S e = some q) : Step S p q := by
  cases e with
  | join job =>
    simp only [after, Option.ite_none_right_eq_some, Option.some.injEq] at h
    obtain ⟨hj, rfl⟩ := h
    exact .join job hj
  | turn n t =>
    obtain ⟨before, m, rest, m', s', hp, -, ha, hg, rfl⟩ := after_turn h
    rw [hp] at ha ⊢
    exact .turn t ha hg

theorem later_of_play {events : List (Event ι)} (h : p.play S events = some q) : Later S p q := by
  induction events generalizing p with
  | nil =>
    cases h
    exact .refl
  | cons e events ih =>
    simp only [play, List.foldlM_cons, Option.bind_eq_bind, Option.bind_eq_some_iff] at h
    obtain ⟨p', hp, hq⟩ := h
    exact .head (step_of_after hp) (ih hq)

theorem exists_later_of_play (events : List (Event ι)) {P : Pool ι γ σ α → Prop} [DecidablePred P]
    (h : (p.play S events).any (fun q ↦ decide (P q)) = true) : ∃ q, Later S p q ∧ P q := by
  cases hq : p.play S events with
  | none => simp [hq] at h
  | some q =>
    rw [hq] at h
    exact ⟨q, later_of_play hq, of_decide_eq_true h⟩

end Pool

namespace Strand

def andThen (f : α → Task γ σ β) : Strand γ σ α → Share γ σ → Strand γ σ β × Share γ σ
  | ready t, s => (.ready (t.bind f), s)
  | sent r k, s => (.sent r fun o ↦ (k o).bind f, s)
  | queued g next, s => (.queued g (next.bind f), s)
  | ended a, s => (f a).park s
  | pair l r k, s => (.pair l r fun a b ↦ (k a b).bind f, s)

end Strand

theorem Task.park_bind (t : Task γ σ α) (f : α → Task γ σ β) (s : Share γ σ) :
    (t.bind f).park s = (t.park s).1.andThen f (t.park s).2 := by
  induction t generalizing s with
  | done a => rfl
  | look k ih => exact ih _ f s
  | update g next ih => exact ih f _
  | send r k => rfl
  | lock g next => rfl
  | unlock g next ih => exact ih f _
  | both l r k => rfl

theorem Strand.exchange?_andThen {st : Strand γ σ α} (h : st.result? = none) (f : α → Task γ σ β)
    (s : Share γ σ) (t : Turn) : (st.andThen f s).1.exchange? t = st.exchange? t := by
  cases st with
  | ended a => cases h
  | _ => cases t <;> rfl

namespace Member

variable {ι γ σ α : Type}

def InFlight (m : Member ι γ σ α) : Prop := m.record ≠ ⟨[], []⟩ ∧ m.result? = none

end Member

namespace Pool

variable {ι γ σ α : Type} {p q : Pool ι γ σ α} {m m' : Member ι γ σ α} {n : Nat}

def result? (p : Pool ι γ σ α) (n : Nat) : Option α := p.members[n]?.bind Member.result?

def record (p : Pool ι γ σ α) (n : Nat) : Record := (p.members[n]?.map Member.record).getD ⟨[], []⟩

def InFlight (p : Pool ι γ σ α) (n : Nat) : Prop := p.record n ≠ ⟨[], []⟩ ∧ p.result? n = none

def turned (p : Pool ι γ σ α) (n : Nat) (m : Member ι γ σ α) (s : Share γ σ) : Pool ι γ σ α :=
  ⟨s, p.members.set n m⟩

theorem getElem?_turned (hm : p.members[n]? = some m) (s : Share γ σ) (i : Nat) :
    (p.turned n m' s).members[i]? = if i = n then some m' else p.members[i]? := by
  obtain ⟨hn, -⟩ := List.getElem?_eq_some_iff.mp hm
  split
  · next hi => rw [hi, turned, List.getElem?_set_self hn]
  · next hi => rw [turned, List.getElem?_set_ne (Ne.symm hi)]

theorem getElem?_split (s : Share γ σ) (before after : List (Member ι γ σ α)) :
    (Pool.mk s (before ++ m :: after)).members[before.length]? = some m := by
  rw [List.getElem?_append_right (Nat.le_refl _), Nat.sub_self]
  rfl

theorem turned_split (s s' : Share γ σ) (before after : List (Member ι γ σ α)) :
    (Pool.mk s (before ++ m :: after)).turned before.length m' s' = ⟨s', before ++ m' :: after⟩ := by
  rw [turned, List.set_append_right _ _ (Nat.le_refl _), Nat.sub_self]
  rfl

theorem result?_turned (hm : p.members[n]? = some m) (s : Share γ σ) (i : Nat) :
    (p.turned n m' s).result? i = if i = n then m'.result? else p.result? i := by
  rw [result?, getElem?_turned hm]
  split <;> rfl

theorem record_turned (hm : p.members[n]? = some m) (s : Share γ σ) (i : Nat) :
    (p.turned n m' s).record i = if i = n then m'.record else p.record i := by
  rw [record, getElem?_turned hm]
  split <;> rfl

theorem inFlight_turned (hm : p.members[n]? = some m) (s : Share γ σ) (i : Nat) :
    (p.turned n m' s).InFlight i ↔ if i = n then m'.InFlight else p.InFlight i := by
  rw [InFlight, result?_turned hm, record_turned hm]
  split <;> rfl

theorem inFlight_iff (hm : p.members[n]? = some m) : p.InFlight n ↔ m.InFlight := by
  rw [InFlight, result?, record, hm]
  rfl

variable {job : ι} {task : Task γ σ α}

theorem result?_join (i : Nat) :
    result? { p with members := p.members ++ [⟨job, [], .ready task⟩] } i = p.result? i := by
  rw [result?, result?, List.getElem?_append]
  split
  · rfl
  · next hi =>
    rw [List.getElem?_eq_none (Nat.not_lt.mp hi)]
    cases i - p.members.length <;> rfl

theorem record_join (i : Nat) :
    record { p with members := p.members ++ [⟨job, [], .ready task⟩] } i = p.record i := by
  rw [record, record, List.getElem?_append]
  split
  · rfl
  · next hi =>
    rw [List.getElem?_eq_none (Nat.not_lt.mp hi)]
    cases i - p.members.length <;> rfl

variable [DecidableEq γ] {S : Setting ι γ σ α}

/-- What a step does, where tasks are known by their places. -/
theorem Step.elim (hs : Step S p q) :
    (∃ job, q = { p with members := p.members ++ [⟨job, [], .ready (S.task job)⟩] }) ∨
    (∃ n m m' s' t, p.members[n]? = some m ∧ m.go t p.share = some (m', s') ∧ q = p.turned n m' s') ∨
    ∃ state, S.passes p.share.state state ∧ q = { p with share := { p.share with state } } := by
  cases hs with
  | join job hj => exact .inl ⟨job, rfl⟩
  | @turn s s' before after m m' t ha hg =>
    exact .inr (.inl ⟨before.length, m, m', s', t, getElem?_split s before after, hg,
      (turned_split s s' before after).symm⟩)
  | pass hp => exact .inr (.inr ⟨_, hp, rfl⟩)

theorem Step.turned {t : Turn} {s : Share γ σ} (hm : p.members[n]? = some m) (ha : S.allows p.records m.record t)
    (hg : m.go t p.share = some (m', s)) : Step S p (p.turned n m' s) := by
  obtain ⟨hn, he⟩ := List.getElem?_eq_some_iff.mp hm
  have hp : p = ⟨p.share, p.members.take n ++ m :: p.members.drop (n + 1)⟩ := by
    rw [← he, ← List.drop_eq_getElem_cons hn, List.take_append_drop]
  have hq : p.turned n m' s = ⟨s, p.members.take n ++ m' :: p.members.drop (n + 1)⟩ := by
    rw [Pool.turned, List.set_eq_take_append_cons_drop, if_pos hn]
  rw [hq]
  rw [hp] at ha
  conv => arg 2; rw [hp]
  exact .turn t ha hg

end Pool

end Backoffice
