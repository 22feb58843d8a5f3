import Backoffice.Proofs.Task.Alone
import Backoffice.Proofs.Task.Safety
import Mathlib.Data.List.Forall2

namespace Backoffice

open Web (Request Outcome)

/-- What two runs have in common: how their states and how their requests are alike. -/
structure Likeness (σ : Type) where
  states : σ → σ → Prop
  sends : Request → Request → Prop

variable {γ γ' σ τ ε : Type} {α β δ α' β' : Type}

structure Exchange.Matches (sends : Request → Request → Prop) (e e' : Exchange) : Prop where
  request : sends e.request e'.request
  outcome : e.outcome = e'.outcome

theorem Exchange.Matches.eq {sends : Request → Request → Prop} {e e' : Exchange} (h : e.Matches sends e')
    (hr : ∀ r r', sends r r' → r = r') : e = e' := by
  obtain ⟨r, o⟩ := e
  obtain ⟨r', o'⟩ := e'
  cases hr _ _ h.request
  cases h.outcome
  rfl

theorem Exchange.eq_of_forall₂ {sends : Request → Request → Prop} {sent sent' : List Exchange}
    (h : List.Forall₂ (Exchange.Matches sends) sent sent') (hr : ∀ r r', sends r r' → r = r') : sent = sent' := by
  rw [← List.forall₂_eq_eq_eq]
  exact h.imp fun _ _ h ↦ h.eq hr

namespace Likeness

def logged (L : Likeness σ) (tr tr' : List Exchange) : Likeness (σ × List Exchange) where
  states := fun p q ↦ L.states p.1 q.1 ∧ ∃ sent sent', p.2 = sent ++ tr ∧ q.2 = sent' ++ tr' ∧
    List.Forall₂ (Exchange.Matches L.sends) sent sent'
  sends := L.sends

end Likeness

/-- Failures that are the same, or results that belong together. -/
inductive Fares (Q : α → β → Prop) : Except ε α → Except ε β → Prop
  | error (e : ε) : Fares Q (.error e) (.error e)
  | ok {a : α} {b : β} (h : Q a b) : Fares Q (.ok a) (.ok b)

theorem Fares.eq {r r' : Except ε α} (h : Fares Eq r r') : r = r' := by
  cases h with
  | error e => rfl
  | ok h => rw [h]

theorem Fares.refl (r : Except ε α) : Fares Eq r r := by
  cases r with
  | error e => exact .error e
  | ok a => exact .ok rfl

namespace Task

/-- Two tasks that take the same steps. `Q` is what their results have to do with each other. -/
inductive Matches (L : Likeness σ) :
    {α β : Type} → (α → β → Prop) → Task γ σ α → Task γ σ β → Prop
  | done {α β : Type} {Q : α → β → Prop} {a : α} {b : β} (h : Q a b) : Matches L Q (.done a) (.done b)
  | look {α β : Type} {Q : α → β → Prop} {k : σ → Task γ σ α} {k' : σ → Task γ σ β}
      (h : ∀ s s', L.states s s' → Matches L Q (k s) (k' s')) : Matches L Q (.look k) (.look k')
  | update {α β : Type} {Q : α → β → Prop} {f f' : σ → σ} {t : Task γ σ α} {u : Task γ σ β}
      (hf : ∀ s s', L.states s s' → L.states (f s) (f' s')) (h : Matches L Q t u) :
      Matches L Q (.update f t) (.update f' u)
  | send {α β : Type} {Q : α → β → Prop} {r r' : Request} {k : Outcome → Task γ σ α}
      {k' : Outcome → Task γ σ β} (hr : L.sends r r') (h : ∀ o, Matches L Q (k o) (k' o)) :
      Matches L Q (.send r k) (.send r' k')
  | lock {α β : Type} {Q : α → β → Prop} {t : Task γ σ α} {u : Task γ σ β} (g : γ)
      (h : Matches L Q t u) : Matches L Q (.lock g t) (.lock g u)
  | unlock {α β : Type} {Q : α → β → Prop} {t : Task γ σ α} {u : Task γ σ β} (g : γ)
      (h : Matches L Q t u) : Matches L Q (.unlock g t) (.unlock g u)
  | both {α β δ α' β' δ' : Type} {Q : δ → δ' → Prop} {Ql : α → α' → Prop} {Qr : β → β' → Prop}
      {l : Task γ σ α} {l' : Task γ σ α'} {r : Task γ σ β} {r' : Task γ σ β'}
      {k : α → β → Task γ σ δ} {k' : α' → β' → Task γ σ δ'} (hl : Matches L Ql l l')
      (hr : Matches L Qr r r')
      (hk : ∀ a a' b b', Ql a a' → Qr b b' → Matches L Q (k a b) (k' a' b')) :
      Matches L Q (.both l r k) (.both l' r' k')

namespace Matches

variable {L : Likeness σ} {Q : α → α' → Prop} {Q' : β → β' → Prop} {t : Task γ σ α} {u : Task γ σ α'}

theorem bind {f : α → Task γ σ β} {g : α' → Task γ σ β'} (h : t.Matches L Q u)
    (hf : ∀ a a', Q a a' → (f a).Matches L Q' (g a')) : (t.bind f).Matches L Q' (u.bind g) := by
  induction h generalizing β β' with
  | done h => exact hf _ _ h
  | look _ ih => exact .look fun s s' hs ↦ ih s s' hs hf
  | update hu _ ih => exact .update hu (ih hf)
  | send hr _ ih => exact .send hr fun o ↦ ih o hf
  | lock l _ ih => exact .lock l (ih hf)
  | unlock l _ ih => exact .unlock l (ih hf)
  | both hl hr _ _ _ ih => exact .both hl hr fun a a' b b' ha hb ↦ ih a a' b b' ha hb hf

theorem mono {R : α → α' → Prop} (h : t.Matches L Q u) (hq : ∀ a a', Q a a' → R a a') :
    t.Matches L R u := by
  induction h with
  | done h => exact .done (hq _ _ h)
  | look _ ih => exact .look fun s s' hs ↦ ih s s' hs hq
  | update hu _ ih => exact .update hu (ih hq)
  | send hr _ ih => exact .send hr fun o ↦ ih o hq
  | lock g _ ih => exact .lock g (ih hq)
  | unlock g _ ih => exact .unlock g (ih hq)
  | both hl hr _ _ _ ih => exact .both hl hr fun a a' b b' ha hb ↦ ih a a' b b' ha hb hq

theorem next {t u : Task γ σ α} {f : α → Task γ σ β} {g : α → Task γ σ β'} (h : t.Matches L Eq u)
    (hf : ∀ a, (f a).Matches L Q' (g a)) : (t.bind f).Matches L Q' (u.bind g) := by
  refine h.bind fun a a' ha ↦ ?_
  cases ha
  exact hf a

/-- A task matches itself where nothing but equal states are alike. -/
theorem refl {sends : Request → Request → Prop} (hr : ∀ r, sends r r) (t : Task γ σ α) :
    t.Matches ⟨Eq, sends⟩ Eq t := by
  induction t with
  | done a => exact .done rfl
  | look k ih =>
    refine .look fun s s' hs ↦ ?_
    cases hs
    exact ih s
  | update f next ih => exact .update (fun _ _ ↦ congrArg f) ih
  | send r k ih => exact .send (hr r) ih
  | lock g next ih => exact .lock g ih
  | unlock g next ih => exact .unlock g ih
  | both l r k ihl ihr ih =>
    refine .both ihl ihr fun a a' b b' ha hb ↦ ?_
    cases ha
    cases hb
    exact ih a b

theorem state {act : StateM σ α} {act' : StateM σ α'}
    (h : ∀ s s', L.states s s' → Q (act s).1 (act' s').1 ∧ L.states (act s).2 (act' s').2) :
    (state act : Task γ σ α).Matches L Q (state act') :=
  .look fun s s' hs ↦ .update (fun _ _ _ ↦ (h s s' hs).2) (.done (h s s' hs).1)

theorem request {r r' : Request} (h : L.sends r r') :
    (request r : Task γ σ Outcome).Matches L Eq (Task.request r') :=
  .send h fun _ ↦ .done rfl

theorem acquire (g : γ) : (acquire g : Task γ σ Unit).Matches L Eq (Task.acquire g) :=
  .lock g (.done rfl)

theorem release (g : γ) : (release g : Task γ σ Unit).Matches L Eq (Task.release g) :=
  .unlock g (.done rfl)

theorem except_bind {t : ExceptT ε (Task γ σ) α} {u : ExceptT ε (Task γ σ) α'}
    {f : α → ExceptT ε (Task γ σ) β} {g : α' → ExceptT ε (Task γ σ) β'}
    (h : t.run.Matches L (Fares Q) u.run) (hf : ∀ a a', Q a a' → (f a).run.Matches L (Fares Q') (g a').run) :
    (t >>= f).run.Matches L (Fares Q') (u >>= g).run := by
  apply h.bind (f := ExceptT.bindCont f) (g := ExceptT.bindCont g)
  intro r r' hr
  cases hr with
  | error e => exact .done (.error e)
  | ok ha => exact hf _ _ ha

theorem except_next {t u : ExceptT ε (Task γ σ) α} {f : α → ExceptT ε (Task γ σ) β}
    {g : α → ExceptT ε (Task γ σ) β'} (h : t.run.Matches L Eq u.run)
    (hf : ∀ a, (f a).run.Matches L (Fares Q') (g a).run) :
    (t >>= f).run.Matches L (Fares Q') (u >>= g).run := by
  refine h.next (f := ExceptT.bindCont f) (g := ExceptT.bindCont g) fun r ↦ ?_
  cases r with
  | error e => exact .done (.error e)
  | ok a => exact hf a

theorem lift (h : t.Matches L Q u) :
    (ExceptT.lift t : ExceptT ε (Task γ σ) α).run.Matches L (Fares Q)
      (ExceptT.lift u : ExceptT ε (Task γ σ) α').run :=
  h.bind fun _ _ ha ↦ .done (.ok ha)

theorem lift_bind {f : α → ExceptT ε (Task γ σ) β} {g : α' → ExceptT ε (Task γ σ) β'}
    (h : t.Matches L Q u) (hf : ∀ a a', Q a a' → (f a).run.Matches L (Fares Q') (g a').run) :
    (ExceptT.lift t >>= f).run.Matches L (Fares Q') (ExceptT.lift u >>= g).run :=
  h.lift.except_bind hf

theorem lift_next {t u : Task γ σ α} {f : α → ExceptT ε (Task γ σ) β} {g : α → ExceptT ε (Task γ σ) β'}
    (h : t.Matches L Eq u) (hf : ∀ a, (f a).run.Matches L (Fares Q') (g a).run) :
    (ExceptT.lift t >>= f).run.Matches L (Fares Q') (ExceptT.lift u >>= g).run := by
  refine h.lift_bind fun a a' ha ↦ ?_
  cases ha
  exact hf a

theorem all {ts us : List (Task γ σ α)} (h : List.Forall₂ (Matches L Eq) ts us) :
    (Task.all ts).Matches L Eq (Task.all us) := by
  induction h with
  | nil => exact .done rfl
  | cons h _ ih =>
    refine .both h ih fun a a' as as' ha has ↦ .done ?_
    rw [ha, has]

/-- A task on a part of larger states that are alike wherever the parts are. -/
theorem zoom {part : τ → σ} {put : σ → τ → τ} {gate : γ → γ'} {L' : Likeness τ}
    (hp : ∀ s t, L'.states s t → L.states (part s) (part t))
    (hq : ∀ a b s t, L.states a b → L'.states s t → L'.states (put a s) (put b t))
    (hs : ∀ r r', L.sends r r' → L'.sends r r') (h : t.Matches L Q u) :
    (t.zoom part put gate).Matches L' Q (u.zoom part put gate) := by
  induction h with
  | done h => exact .done h
  | look _ ih => exact .look fun s t hst ↦ ih _ _ (hp s t hst)
  | update hu _ ih => exact .update (fun s t hst ↦ hq _ _ s t (hu _ _ (hp s t hst)) hst) ih
  | send hr _ ih => exact .send (hs _ _ hr) ih
  | lock g _ ih => exact .lock (gate g) ih
  | unlock g _ ih => exact .unlock (gate g) ih
  | both _ _ _ ihl ihr ih => exact .both ihl ihr ih

theorem logged (h : t.Matches L Q u) (tr tr' : List Exchange) :
    t.logged.Matches (L.logged tr tr') Q u.logged :=
  h.zoom (fun _ _ hst ↦ hst.1) (fun _ _ _ _ hab hst ↦ ⟨hab, hst.2⟩) fun _ _ ↦ id

end Matches

end Task

inductive Thread.Matches (L : Likeness σ) :
    {α β : Type} → (α → β → Prop) → Thread γ σ α → Thread γ σ β → Prop
  | finished {α β : Type} {Q : α → β → Prop} {a : α} {b : β} (h : Q a b) :
      Matches L Q (.finished a) (.finished b)
  | awaiting {α β : Type} {Q : α → β → Prop} (ticket : Nat) {k : Outcome → Task γ σ α}
      {k' : Outcome → Task γ σ β} (h : ∀ o, (k o).Matches L Q (k' o)) :
      Matches L Q (.awaiting ticket k) (.awaiting ticket k')
  | queued {α β : Type} {Q : α → β → Prop} (ticket : Nat) {t : Task γ σ α} {u : Task γ σ β}
      (h : t.Matches L Q u) : Matches L Q (.queued ticket t) (.queued ticket u)
  | pair {α β δ α' β' δ' : Type} {Q : δ → δ' → Prop} {Ql : α → α' → Prop} {Qr : β → β' → Prop}
      {l : Thread γ σ α} {l' : Thread γ σ α'} {r : Thread γ σ β} {r' : Thread γ σ β'}
      {k : α → β → Task γ σ δ} {k' : α' → β' → Task γ σ δ'} (hl : Matches L Ql l l')
      (hr : Matches L Qr r r')
      (hk : ∀ a a' b b', Ql a a' → Qr b b' → (k a b).Matches L Q (k' a' b')) :
      Matches L Q (.pair l r k) (.pair l' r' k')

/-- Networks that deliver alike what is sent alike, and leave states that are alike. -/
def Network.Matches (L : Likeness σ) (net net' : Network σ) : Prop :=
  ∀ r r' s s', L.sends r r' → L.states s s' →
    (net r s).1 = (net' r' s').1 ∧ L.states (net r s).2 (net' r' s').2

namespace Machine

variable [DecidableEq γ] {L : Likeness σ} {net net' : Network σ} {Q : α → α' → Prop}

inductive Matches (L : Likeness σ) (m : Machine γ σ) : Machine γ σ → Prop
  | mk {s : σ} (h : L.states m.state s) : Matches L m { m with state := s }

structure Abreast (L : Likeness σ) (Q : α → α' → Prop) (p : Thread γ σ α × Machine γ σ)
    (p' : Thread γ σ α' × Machine γ σ) : Prop where
  threads : p.1.Matches L Q p'.1
  machines : p.2.Matches L p'.2

theorem Matches.free {m m' : Machine γ σ} (h : m.Matches L m') (g : γ) : (m.free g).Matches L (m'.free g) := by
  cases h with
  | mk h =>
    unfold Machine.free
    cases hw : m.waiting.find? (·.1 = g) with
    | some w => exact .mk (m := { m with waiting := _, granted := _ }) h
    | none => exact .mk (m := { m with held := _ }) h

theorem join_matches {Ql : β → β' → Prop} {Qr : δ → α' → Prop} {δ' : Type} {R : α → δ' → Prop}
    {l : Thread γ σ β} {l' : Thread γ σ β'} {r : Thread γ σ δ} {r' : Thread γ σ α'}
    {k : β → δ → Task γ σ α} {k' : β' → α' → Task γ σ δ'} {m m' : Machine γ σ}
    (hl : l.Matches L Ql l') (hr : r.Matches L Qr r')
    (hk : ∀ a a' b b', Ql a a' → Qr b b' → (k a b).Matches L R (k' a' b')) (hm : m.Matches L m')
    (ih : ∀ a a' b b', Ql a a' → Qr b b' →
      Abreast L R (advance net (k a b) m) (advance net' (k' a' b') m')) :
    Abreast L R (join net l r k m) (join net' l' r' k' m') := by
  have hp : Abreast L R (Thread.pair l r k, m) (Thread.pair l' r' k', m') := ⟨.pair hl hr hk, hm⟩
  cases hl with
  | finished ha =>
    cases hr with
    | finished hb => exact ih _ _ _ _ ha hb
    | awaiting _ _ => exact hp
    | queued _ _ => exact hp
    | pair _ _ _ => exact hp
  | awaiting _ _ => exact hp
  | queued _ _ => exact hp
  | pair _ _ _ => exact hp

theorem advance_matches (hn : net.Matches L net') {t : Task γ σ α} {u : Task γ σ α'}
    (h : t.Matches L Q u) {m m' : Machine γ σ} (hm : m.Matches L m') :
    Abreast L Q (advance net t m) (advance net' u m') := by
  -- The machines vary: each step is taken where the one before has left them.
  induction h generalizing m m' with
  | done h => exact ⟨.finished h, hm⟩
  | look _ ih =>
    cases hm with
    | mk hs => exact ih _ _ hs (.mk hs)
  | update hf _ ih =>
    cases hm with
    | mk hs => exact ih (.mk (m := { m with state := _ }) (hf _ _ hs))
  | @send _ _ _ r r' k k' hr hk ih =>
    cases hm with
    | @mk s hs =>
      obtain ⟨hd, hs⟩ := hn r r' m.state s hr hs
      simp only [advance]
      generalize net r m.state = p at hd hs ⊢
      generalize net' r' s = p' at hd hs ⊢
      obtain ⟨d, t⟩ := p
      obtain ⟨d', t'⟩ := p'
      cases hd
      cases d with
      | atOnce o => exact ih o (.mk (m := { m with state := t }) hs)
      | after delay o =>
        exact ⟨.awaiting _ hk, .mk (m := { m with state := t, tickets := _, underway := _ }) hs⟩
  | lock g h ih =>
    cases hm with
    | mk hs =>
      simp only [advance]
      split
      · exact ⟨.queued _ h, .mk (m := { m with tickets := _, waiting := _ }) hs⟩
      · exact ih (.mk (m := { m with held := g :: m.held }) hs)
  | unlock g _ ih => exact ih (hm.free g)
  | both _ _ hk ihl ihr ih =>
    rw [advance_both, advance_both]
    have hl := ihl hm
    have hr := ihr hl.machines
    exact join_matches hl.threads hr.threads hk hr.machines fun a a' b b' ha hb ↦
      ih a a' b b' ha hb hr.machines

theorem wake_matches (hn : net.Matches L net') (ticket : Nat) (o : Outcome) {t : Thread γ σ α}
    {u : Thread γ σ α'} (h : t.Matches L Q u) {m m' : Machine γ σ} (hm : m.Matches L m') :
    Abreast L Q (wake net ticket o t m) (wake net' ticket o u m') := by
  induction h generalizing m m' with
  | finished h => exact ⟨.finished h, hm⟩
  | awaiting n h =>
    simp only [wake]
    split
    · exact advance_matches hn (h o) hm
    · exact ⟨.awaiting n h, hm⟩
  | queued n h =>
    simp only [wake]
    split
    · exact advance_matches hn h hm
    · exact ⟨.queued n h, hm⟩
  | pair _ _ hk ihl ihr =>
    rw [wake_pair, wake_pair]
    have hl := ihl hm
    have hr := ihr hl.machines
    exact join_matches hl.threads hr.threads hk hr.machines fun a a' b b' ha hb ↦
      advance_matches hn (hk a a' b b' ha hb) hr.machines

theorem step_matches (hn : net.Matches L net') {t : Thread γ σ α} {u : Thread γ σ α'}
    (h : t.Matches L Q u) {m m' : Machine γ σ} (hm : m.Matches L m') :
    Option.Rel (Abreast L Q) (step net t m) (step net' u m') := by
  cases hm with
  | mk hs =>
    simp only [step]
    cases m.granted with
    | cons ticket granted => exact .some (wake_matches hn _ _ h (.mk (m := { m with granted }) hs))
    | nil =>
      cases earliest m.underway with
      | none => exact .none
      | some a =>
        exact .some (wake_matches hn _ _ h (.mk (m := { m with clock := _, underway := _, granted := _ }) hs))

/-- Matching threads are done after the same events, with results that belong together. -/
theorem settle_matches (hn : net.Matches L net') (events : Nat) {t : Thread γ σ α} {u : Thread γ σ α'}
    (h : t.Matches L Q u) {m m' : Machine γ σ} (hm : m.Matches L m') :
    Option.Rel Q (settle net events t m).1 (settle net' events u m').1 ∧
      (settle net events t m).2.Matches L (settle net' events u m').2 := by
  induction events generalizing t u m m' with
  | zero =>
    cases h with
    | finished h => exact ⟨.some h, hm⟩
    | awaiting _ _ => exact ⟨.none, hm⟩
    | queued _ _ => exact ⟨.none, hm⟩
    | pair _ _ _ => exact ⟨.none, hm⟩
  | succ events ih =>
    have hs := step_matches hn h hm
    rw [settle_succ_eq, settle_succ_eq]
    generalize step net t m = p at hs ⊢
    generalize step net' u m' = p' at hs ⊢
    cases h with
    | finished h => exact ⟨.some h, hm⟩
    | _ =>
      -- Both have a next event or neither has.
      cases hs with
      | none => exact ⟨.none, hm⟩
      | some hp => exact ih hp.threads hp.machines

/-- Matching tasks come to results that belong together, or neither comes to one. -/
theorem run_matches (hn : net.Matches L net') (events : Nat) {t : Task γ σ α} {u : Task γ σ α'}
    (h : t.Matches L Q u) {s s' : σ} (hs : L.states s s') :
    Option.Rel Q (run net events t s).1 (run net' events u s').1 ∧
      (run net events t s).2.Matches L (run net' events u s').2 := by
  have ha := advance_matches hn h (.mk (m := start s) hs)
  exact settle_matches hn events ha.threads ha.machines

end Machine

end Backoffice
