import Backoffice.Proofs.Task.Alone

namespace Backoffice

open Web (Request Outcome)

/-- `holds` is true of a state in which a task waits, `rely` of such a state and the one in which it
goes on, and `sends` of every request. -/
structure Terms (σ : Type) where
  holds : σ → Prop
  rely : σ → σ → Prop
  sends : Request → Prop
  refl : ∀ s, rely s s
  trans : ∀ {s t u}, rely s t → rely t u → rely s u

namespace Terms

variable {σ : Type}

/-- The terms of tasks side by side: one finds what another one leaves. -/
def shared (T : Terms σ) (holds : σ → Prop) : Terms σ where
  holds := holds
  rely := fun _ _ ↦ True
  sends := T.sends
  refl := fun _ ↦ trivial
  trans := fun _ _ ↦ trivial

def comap {τ : Type} (part : τ → σ) (T : Terms σ) : Terms τ where
  holds := fun t ↦ T.holds (part t)
  rely := fun s t ↦ T.rely (part s) (part t)
  sends := T.sends
  refl := fun t ↦ T.refl (part t)
  trans := T.trans

/-- The exchanges `tr'` are those of `tr` and later ones, whose requests the terms allow. -/
def Sent (T : Terms σ) (tr tr' : List Exchange) : Prop :=
  ∃ later, tr' = later ++ tr ∧ ∀ e ∈ later, T.sends e.request

theorem Sent.refl (T : Terms σ) (tr : List Exchange) : T.Sent tr tr := ⟨[], rfl, fun _ he ↦ nomatch he⟩

theorem Sent.trans {T : Terms σ} {tr tr' tr'' : List Exchange} (h : T.Sent tr tr') (h' : T.Sent tr' tr'') :
    T.Sent tr tr'' := by
  obtain ⟨later, rfl, hl⟩ := h
  obtain ⟨later', rfl, hl'⟩ := h'
  exact ⟨later' ++ later, (List.append_assoc ..).symm, fun e he ↦ (List.mem_append.mp he).elim (hl' e) (hl e)⟩

def logged (T : Terms σ) (tr : List Exchange) :
    Terms (σ × List Exchange) where
  holds := fun p ↦ T.holds p.1 ∧ T.Sent tr p.2
  rely := fun p q ↦ T.rely p.1 q.1
  sends := T.sends
  refl := fun p ↦ T.refl p.1
  trans := T.trans

structure Upholds (T : Terms σ) (holds : σ → Prop) : Prop where
  of_holds : ∀ {s}, holds s → T.holds s
  stable : ∀ {s t}, holds s → T.rely s t → T.holds t → holds t

end Terms

namespace Task

variable {γ γ' σ τ : Type} {α β : Type}

/-- Whether a task that goes on from a state keeps to the terms and ends in `Q`. -/
def Safe : {α : Type} → Task γ σ α → Terms σ → (α → σ → Prop) → σ → Prop
  | _, done a, _, Q, s => Q a s
  | _, look k, T, Q, s => (k s).Safe T Q s
  | _, update f next, T, Q, s => next.Safe T Q (f s)
  | _, send r k, T, Q, s =>
    T.holds s ∧ T.sends r ∧ ∀ o t, T.holds t → T.rely s t → (k o).Safe T Q t
  | _, lock _ next, T, Q, s => T.holds s ∧ ∀ t, T.holds t → T.rely s t → next.Safe T Q t
  | _, unlock _ next, T, Q, s => next.Safe T Q s
  | _, both l r k, T, Q, s =>
    ∃ J, T.Upholds J ∧ J s ∧
      (∀ t, J t → l.Safe (T.shared J) (fun _ ↦ J) t) ∧
      (∀ t, J t → r.Safe (T.shared J) (fun _ ↦ J) t) ∧
      ∀ a b t, J t → (k a b).Safe T Q t

variable {T : Terms σ} {s : σ}

theorem Safe.mono {Q Q' : α → σ → Prop} {t : Task γ σ α} (h : t.Safe T Q s)
    (hq : ∀ a s, Q a s → Q' a s) : t.Safe T Q' s := by
  induction t generalizing s with
  | done a => exact hq _ _ h
  | look k ih => exact ih s h hq
  | update f next ih => exact ih h hq
  | send r k ih => exact ⟨h.1, h.2.1, fun o t ht hr ↦ ih o (h.2.2 o t ht hr) hq⟩
  | lock g next ih => exact ⟨h.1, fun t ht hr ↦ ih (h.2 t ht hr) hq⟩
  | unlock g next ih => exact ih h hq
  | both l r k _ _ ih =>
    obtain ⟨J, hu, hs, hl, hr, hk⟩ := h
    exact ⟨J, hu, hs, hl, hr, fun a b t ht ↦ ih a b (hk a b t ht) hq⟩

theorem safe_bind (t : Task γ σ α) (f : α → Task γ σ β) (Q : β → σ → Prop) :
    (t.bind f).Safe T Q s ↔ t.Safe T (fun a s ↦ (f a).Safe T Q s) s := by
  induction t generalizing s with
  | done a => rfl
  | look k ih => exact ih s f
  | update g next ih => exact ih f
  | send r k ih => simp only [bind, Safe, ih]
  | lock g next ih => simp only [bind, Safe, ih]
  | unlock g next ih => exact ih f
  | both l r k _ _ ih => simp only [bind, Safe, ih]

theorem Safe.bind {R : α → σ → Prop} {Q : β → σ → Prop} {t : Task γ σ α} {f : α → Task γ σ β}
    (h : t.Safe T R s) (hf : ∀ a s, R a s → (f a).Safe T Q s) : (t.bind f).Safe T Q s :=
  (safe_bind t f Q).mpr (h.mono hf)

variable {ε : Type}

/-- Tasks that may fail, one after the other. A failure of the first is that of both. -/
theorem Safe.except_bind {R : Except ε α → σ → Prop} {Q : Except ε β → σ → Prop}
    {t : ExceptT ε (Task γ σ) α} {f : α → ExceptT ε (Task γ σ) β} (h : t.run.Safe T R s)
    (hf : ∀ a s, R (.ok a) s → (f a).run.Safe T Q s)
    (he : ∀ e s, R (.error e) s → Q (.error e) s) : (t >>= f).run.Safe T Q s := by
  apply Safe.bind (f := ExceptT.bindCont f) h
  intro r s hs
  cases r with
  | error e => exact he e s hs
  | ok a => exact hf a s hs

theorem Safe.lift {Q : Except ε α → σ → Prop} {t : Task γ σ α}
    (h : t.Safe T (fun a ↦ Q (.ok a)) s) :
    (ExceptT.lift t : ExceptT ε (Task γ σ) α).run.Safe T Q s :=
  h.bind fun _ _ hs ↦ hs

theorem Safe.lift_bind {R : α → σ → Prop} {Q : Except ε β → σ → Prop} {t : Task γ σ α}
    {f : α → ExceptT ε (Task γ σ) β} (h : t.Safe T R s)
    (hf : ∀ a s, R a s → (f a).run.Safe T Q s) : (ExceptT.lift t >>= f).run.Safe T Q s := by
  apply Safe.except_bind (R := fun r s ↦ ∃ a, r = .ok a ∧ R a s)
  · exact Safe.lift (h.mono fun a _ hR ↦ ⟨a, rfl, hR⟩)
  · intro b s hq
    obtain ⟨a, ha, hR⟩ := hq
    cases ha
    exact hf b s hR
  · intro e s hq
    obtain ⟨a, ha, -⟩ := hq
    cases ha

theorem Safe.weaken {T' : Terms σ} {Q : α → σ → Prop} {t : Task γ σ α} (h : t.Safe T Q s)
    (hh : ∀ {s}, T.holds s → T'.holds s)
    (hr : ∀ {s t}, T.holds s → T'.rely s t → T'.holds t → T.holds t ∧ T.rely s t)
    (hs : ∀ {r}, T.sends r → T'.sends r) : t.Safe T' Q s := by
  induction t generalizing s T T' with
  | done a => exact h
  | look k ih => exact ih _ h hh hr hs
  | update f next ih => exact ih h hh hr hs
  | send r k ih =>
    refine ⟨hh h.1, hs h.2.1, fun o t ht hst ↦ ?_⟩
    obtain ⟨ht', hst'⟩ := hr h.1 hst ht
    exact ih o (h.2.2 o t ht' hst') hh hr hs
  | lock g next ih =>
    refine ⟨hh h.1, fun t ht hst ↦ ?_⟩
    obtain ⟨ht', hst'⟩ := hr h.1 hst ht
    exact ih (h.2 t ht' hst') hh hr hs
  | unlock g next ih => exact ih h hh hr hs
  | both l r k ihl ihr ih =>
    obtain ⟨J, hu, hJ, hl, hr', hk⟩ := h
    refine ⟨J, ⟨fun hJ ↦ hh (hu.of_holds hJ), fun hJ hst ht ↦ ?_⟩, hJ, fun t ht ↦ ?_,
      fun t ht ↦ ?_, fun a b t ht ↦ ih a b (hk a b t ht) hh hr hs⟩
    · obtain ⟨ht', hst'⟩ := hr (hu.of_holds hJ) hst ht
      exact hu.stable hJ hst' ht'
    · exact ihl (hl t ht) id (fun _ _ ht ↦ ⟨ht, trivial⟩) hs
    · exact ihr (hr' t ht) id (fun _ _ ht ↦ ⟨ht, trivial⟩) hs

/-- A part of a larger state, under terms for both. `frame` is true of what lies outside. -/
structure Zooms (part : τ → σ) (put : σ → τ → τ) (frame : τ → Prop) (T : Terms σ)
    (T' : Terms τ) : Prop where
  part_put : ∀ a t, part (put a t) = a
  frame_put : ∀ a {t}, frame t → frame (put a t)
  holds : ∀ {t}, T.holds (part t) → frame t → T'.holds t
  rely : ∀ {s t}, T.holds (part s) → frame s → T'.rely s t → T'.holds t →
    T.holds (part t) ∧ T.rely (part s) (part t) ∧ frame t
  sends : ∀ {r}, T.sends r → T'.sends r

variable {part : τ → σ} {put : σ → τ → τ} {frame : τ → Prop} {T' : Terms τ}

theorem Zooms.shared (hz : Zooms part put frame T T') (J : σ → Prop) :
    Zooms part put frame (T.shared J) (T'.shared fun t ↦ J (part t) ∧ frame t) where
  part_put := hz.part_put
  frame_put := hz.frame_put
  holds h hf := ⟨h, hf⟩
  rely _ _ _ ht := ⟨ht.1, trivial, ht.2⟩
  sends := hz.sends

theorem Safe.zoom {gate : γ → γ'} {Q : α → σ → Prop} {t : Task γ σ α} {s : τ}
    (hz : Zooms part put frame T T') (h : t.Safe T Q (part s)) (hf : frame s) :
    (t.zoom part put gate).Safe T' (fun a s ↦ Q a (part s) ∧ frame s) s := by
  induction t generalizing s T T' with
  | done a => exact ⟨h, hf⟩
  | look k ih => exact ih _ hz h hf
  | update f next ih =>
    refine ih hz ?_ (hz.frame_put _ hf)
    rwa [hz.part_put]
  | send r k ih =>
    refine ⟨hz.holds h.1 hf, hz.sends h.2.1, fun o t ht hst ↦ ?_⟩
    obtain ⟨ht', hst', hf'⟩ := hz.rely h.1 hf hst ht
    exact ih o hz (h.2.2 o _ ht' hst') hf'
  | lock g next ih =>
    refine ⟨hz.holds h.1 hf, fun t ht hst ↦ ?_⟩
    obtain ⟨ht', hst', hf'⟩ := hz.rely h.1 hf hst ht
    exact ih hz (h.2 _ ht' hst') hf'
  | unlock g next ih => exact ih hz h hf
  | both l r k ihl ihr ih =>
    obtain ⟨J, hu, hJ, hl, hr, hk⟩ := h
    refine ⟨fun t ↦ J (part t) ∧ frame t, ⟨fun h ↦ hz.holds (hu.of_holds h.1) h.2, ?_⟩, ⟨hJ, hf⟩,
      fun t ht ↦ ihl (hz.shared J) (hl _ ht.1) ht.2, fun t ht ↦ ihr (hz.shared J) (hr _ ht.1) ht.2,
      fun a b t ht ↦ ih a b hz (hk a b _ ht.1) ht.2⟩
    intro s t hs hst ht
    obtain ⟨ht', hst', hf'⟩ := hz.rely (hu.of_holds hs.1) hs.2 hst ht
    exact ⟨hu.stable hs.1 hst' ht', hf'⟩

theorem Zooms.comap (hp : ∀ a t, part (put a t) = a) :
    Zooms part put (fun _ ↦ True) T (T.comap part) where
  part_put := hp
  frame_put _ _ _ := trivial
  holds h _ := h
  rely _ _ hst ht := ⟨ht, hst, trivial⟩
  sends := id

theorem Safe.logged {Q : α → σ → Prop} {t : Task γ σ α} (h : t.Safe T Q s) (tr : List Exchange) :
    t.logged.Safe (T.logged tr) (fun a p ↦ Q a p.1 ∧ T.Sent tr p.2) (s, tr) := by
  have hz : Zooms Prod.fst (fun s (p : σ × List Exchange) ↦ (s, p.2)) (fun p ↦ T.Sent tr p.2) T
      (T.logged tr) := by
    refine ⟨fun _ _ ↦ rfl, fun _ _ h ↦ h, fun h hf ↦ ⟨h, hf⟩, ?_, id⟩
    exact fun _ _ hpq hq ↦ ⟨hq.1, hpq, hq.2⟩
  exact Safe.zoom hz h ⟨[], rfl, fun _ he ↦ nomatch he⟩

structure Steady (T : Terms σ) (t : Task γ σ α) : Prop where
  safe : ∀ s, T.holds s → t.Safe T (fun _ ↦ T.holds) s

namespace Steady

theorem done (a : α) : Steady T (.done a : Task γ σ α) := ⟨fun _ hs ↦ hs⟩

theorem bind {t : Task γ σ α} {f : α → Task γ σ β} (h : Steady T t) (hf : ∀ a, Steady T (f a)) :
    Steady T (t.bind f) :=
  ⟨fun s hs ↦ (h.safe s hs).bind fun a s hs ↦ (hf a).safe s hs⟩

theorem except_bind {ε : Type} {t : ExceptT ε (Task γ σ) α} {f : α → ExceptT ε (Task γ σ) β}
    (h : Steady T t.run) (hf : ∀ a, Steady T (f a).run) : Steady T (t >>= f).run :=
  ⟨fun s hs ↦ (h.safe s hs).except_bind (fun a s hs ↦ (hf a).safe s hs) fun _ _ hs ↦ hs⟩

theorem lift {ε : Type} {t : Task γ σ α} (h : Steady T t) :
    Steady T (ExceptT.lift t : ExceptT ε (Task γ σ) α).run :=
  ⟨fun s hs ↦ (h.safe s hs).lift⟩

theorem acquire (g : γ) : Steady T (acquire g : Task γ σ Unit) := ⟨fun _ hs ↦ ⟨hs, fun _ ht _ ↦ ht⟩⟩

theorem release (g : γ) : Steady T (release g : Task γ σ Unit) := ⟨fun _ hs ↦ hs⟩

/-- Steady tasks side by side, where a wait may end in any state in which the terms hold. -/
theorem all (ho : ∀ s t, T.rely s t) {ts : List (Task γ σ α)} (h : ∀ t ∈ ts, Steady T t) :
    Steady T (Task.all ts) := by
  have hw : ∀ {β : Type} {t : Task γ σ β}, Steady T t → ∀ s, T.holds s →
      t.Safe (T.shared T.holds) (fun _ ↦ T.holds) s := by
    intro β t ht s hs
    exact (ht.safe s hs).weaken id (fun _ _ ht ↦ ⟨ht, ho _ _⟩) id
  induction ts with
  | nil => exact done []
  | cons t ts ih =>
    have hts := ih fun t ht ↦ h t (List.mem_cons_of_mem _ ht)
    refine ⟨fun s hs ↦ ⟨T.holds, ⟨id, fun _ _ ht ↦ ht⟩, hs, ?_, hw hts, fun _ _ _ ht ↦ ht⟩⟩
    exact hw (h t List.mem_cons_self)

theorem zoom {gate : γ → γ'} {t : Task γ σ α} (hp : ∀ a t, part (put a t) = a)
    (h : Steady T t) : Steady (T.comap part) (t.zoom part put gate) :=
  ⟨fun s hs ↦ (Safe.zoom (Zooms.comap hp) (h.safe (part s) hs) trivial).mono fun _ _ ht ↦ ht.1⟩

end Steady

theorem Safe.run {Q : α → σ → Prop} {t : Task γ σ α} (h : t.Safe T Q s) (backend : Backend)
    (tr : List Exchange) : Q (t.run backend s tr).result (t.run backend s tr).state := by
  induction t generalizing s T tr with
  | done a => exact h
  | look k ih => exact ih s h tr
  | update f next ih => exact ih h tr
  | send r k ih => exact ih _ (h.2.2 _ s h.1 (T.refl s)) _
  | lock g next ih => exact ih (h.2 s h.1 (T.refl s)) tr
  | unlock g next ih => exact ih h tr
  | both l r k ihl ihr ih =>
    obtain ⟨J, -, hJ, hl, hr, hk⟩ := h
    have hJ' := ihl (hl s hJ) tr
    exact ih _ _ (hk _ _ _ (ihr (hr _ hJ') _)) _

theorem Safe.sent {Q : α → σ → Prop} {t : Task γ σ α} (h : t.Safe T Q s) (backend : Backend)
    (tr : List Exchange) : T.Sent tr (t.run backend s tr).trace := by
  induction t generalizing s T tr with
  | done a => exact .refl T tr
  | look k ih => exact ih s h tr
  | update f next ih => exact ih h tr
  | send r k ih =>
    have hr : T.Sent tr (⟨r, backend tr r⟩ :: tr) := ⟨[⟨r, backend tr r⟩], rfl, by simpa using h.2.1⟩
    exact hr.trans (ih _ (h.2.2 _ s h.1 (T.refl s)) _)
  | lock g next ih => exact ih (h.2 s h.1 (T.refl s)) tr
  | unlock g next ih => exact ih h tr
  | both l r k ihl ihr ih =>
    obtain ⟨J, -, hJ, hl, hr, hk⟩ := h
    have hJ' := (hl s hJ).run backend tr
    have hlr := (ihl (hl s hJ) tr).trans (ihr (hr _ hJ') (l.run backend s tr).trace)
    exact Terms.Sent.trans hlr (ih _ _ (hk _ _ _ ((hr _ hJ').run backend _)) _)

end Task

namespace Thread

variable {γ σ : Type} {α : Type}

def Safe : {α : Type} → Thread γ σ α → Terms σ → (α → σ → Prop) → σ → Prop
  | _, finished a, _, Q, s => Q a s
  | _, awaiting _ k, T, Q, s => T.holds s ∧ ∀ o t, T.holds t → T.rely s t → (k o).Safe T Q t
  | _, queued _ next, T, Q, s => T.holds s ∧ ∀ t, T.holds t → T.rely s t → next.Safe T Q t
  | _, pair l r k, T, Q, s =>
    ∃ J, T.Upholds J ∧ l.Safe (T.shared J) (fun _ ↦ J) s ∧ r.Safe (T.shared J) (fun _ ↦ J) s ∧
      ∀ a b t, J t → (k a b).Safe T Q t

variable {T : Terms σ} {s : σ}

theorem Safe.holds_of_shared {J : σ → Prop} {t : Thread γ σ α}
    (h : t.Safe (T.shared J) (fun _ ↦ J) s) : J s := by
  induction t generalizing s T J with
  | finished a => exact h
  | awaiting n k => exact h.1
  | queued n next => exact h.1
  | pair l r k ihl _ =>
    obtain ⟨J', hu, hl, -, -⟩ := h
    exact hu.of_holds (ihl (T := T.shared J) hl)

theorem Safe.resume {J : σ → Prop} {t : Thread γ σ α} {s' : σ}
    (h : t.Safe (T.shared J) (fun _ ↦ J) s) (hs' : J s') :
    t.Safe (T.shared J) (fun _ ↦ J) s' := by
  induction t generalizing T J with
  | finished a => exact hs'
  | awaiting n k => exact ⟨hs', fun o t ht _ ↦ h.2 o t ht trivial⟩
  | queued n next => exact ⟨hs', fun t ht _ ↦ h.2 t ht trivial⟩
  | pair l r k ihl ihr =>
    obtain ⟨J', hu, hl, hr, hk⟩ := h
    have hJ : J' s' := hu.stable (hl.holds_of_shared (T := T.shared J)) trivial hs'
    exact ⟨J', hu, ihl (T := T.shared J) hl hJ, ihr (T := T.shared J) hr hJ, hk⟩

end Thread

def Network.Keeps {σ : Type} (net : Network σ) (T : Terms σ) : Prop :=
  ∀ r s, T.holds s → T.sends r → T.holds (net r s).2 ∧ T.rely s (net r s).2

namespace Machine

variable {γ σ : Type} [DecidableEq γ] {α : Type} {T : Terms σ} {net : Network σ}

theorem keeps_shared {J : σ → Prop} (hn : net.Keeps T) (hu : T.Upholds J) :
    net.Keeps (T.shared J) := by
  intro r s hs hr
  obtain ⟨ht, hst⟩ := hn r s (hu.of_holds hs) hr
  exact ⟨hu.stable hs hst ht, trivial⟩

def join (net : Network σ) {β δ : Type} (l : Thread γ σ α) (r : Thread γ σ β)
    (k : α → β → Task γ σ δ) (m : Machine γ σ) : Thread γ σ δ × Machine γ σ :=
  match l, r with
  | .finished a, .finished b => advance net (k a b) m
  | l, r => (.pair l r k, m)

theorem advance_both (net : Network σ) {β δ : Type} (l : Task γ σ α) (r : Task γ σ β)
    (k : α → β → Task γ σ δ) (m : Machine γ σ) :
    advance net (.both l r k) m =
      let m' := (advance net l m).2
      join net (advance net l m).1 (advance net r m').1 k (advance net r m').2 := by
  simp only [advance]
  rfl

theorem wake_pair (net : Network σ) (ticket : Nat) (o : Outcome) {β δ : Type}
    (l : Thread γ σ α) (r : Thread γ σ β) (k : α → β → Task γ σ δ) (m : Machine γ σ) :
    wake net ticket o (.pair l r k) m =
      let m' := (wake net ticket o l m).2
      join net (wake net ticket o l m).1 (wake net ticket o r m').1 k (wake net ticket o r m').2 := by
  simp only [wake]
  rfl

theorem join_safe {β δ : Type} {Q : δ → σ → Prop} {J : σ → Prop} (hu : T.Upholds J)
    {l : Thread γ σ α} {r : Thread γ σ β} {k : α → β → Task γ σ δ} {m : Machine γ σ}
    (hl : l.Safe (T.shared J) (fun _ ↦ J) m.state) (hr : r.Safe (T.shared J) (fun _ ↦ J) m.state)
    (hk : ∀ a b t, J t → (k a b).Safe T Q t)
    (ih : ∀ a b, (k a b).Safe T Q m.state →
      (advance net (k a b) m).1.Safe T Q (advance net (k a b) m).2.state) :
    (join net l r k m).1.Safe T Q (join net l r k m).2.state := by
  have hJ := hl.holds_of_shared
  have hp : (Thread.pair l r k).Safe T Q m.state := ⟨J, hu, hl, hr, hk⟩
  clear hl hr
  unfold join
  split
  · exact ih _ _ (hk _ _ _ hJ)
  · exact hp

theorem advance_safe (hn : net.Keeps T) {Q : α → σ → Prop} {t : Task γ σ α} {m : Machine γ σ}
    (h : t.Safe T Q m.state) :
    (advance net t m).1.Safe T Q (advance net t m).2.state := by
  induction t generalizing T m with
  | done a => exact h
  | look k ih => exact ih _ hn h
  | update f next ih => exact ih hn h
  | send r k ih =>
    obtain ⟨ht, hst⟩ := hn r m.state h.1 h.2.1
    simp only [advance]
    cases hd : net r m.state with
    | mk d t =>
      rw [hd] at ht hst
      cases d with
      | atOnce o => exact ih o hn (h.2.2 o t ht hst)
      | after delay o => exact ⟨ht, fun o u hu htu ↦ h.2.2 o u hu (T.trans hst htu)⟩
  | lock g next ih =>
    simp only [advance]
    split
    · exact h
    · exact ih hn (h.2 _ h.1 (T.refl _))
  | unlock g next ih =>
    have hs : (m.free g).state = m.state := by unfold free; split <;> rfl
    exact ih hn (by rwa [hs])
  | both l r k ihl ihr ih =>
    obtain ⟨J, hu, hJ, hl, hr, hk⟩ := h
    -- The right side starts where the left one waits first: in a state that both keep.
    have hl' := ihl (keeps_shared hn hu) (hl _ hJ)
    have hJ' := hl'.holds_of_shared
    have hr' := ihr (keeps_shared hn hu) (hr _ hJ')
    rw [advance_both]
    exact join_safe hu (hl'.resume hr'.holds_of_shared) hr' hk fun a b h ↦ ih a b hn h

theorem wake_safe (hn : net.Keeps T) (ticket : Nat) (o : Outcome) {Q : α → σ → Prop}
    {t : Thread γ σ α} {m : Machine γ σ} (h : t.Safe T Q m.state) :
    (wake net ticket o t m).1.Safe T Q (wake net ticket o t m).2.state := by
  induction t generalizing T m with
  | finished a => exact h
  | awaiting n k =>
    simp only [wake]
    split
    · exact advance_safe hn (h.2 o _ h.1 (T.refl _))
    · exact h
  | queued n next =>
    simp only [wake]
    split
    · exact advance_safe hn (h.2 _ h.1 (T.refl _))
    · exact h
  | pair l r k ihl ihr =>
    obtain ⟨J, hu, hl, hr, hk⟩ := h
    have hl' := ihl (keeps_shared hn hu) hl
    have hr' := ihr (keeps_shared hn hu) (hr.resume hl'.holds_of_shared)
    -- The left side waits on while the right one runs, so it is resumed in the state after both.
    rw [wake_pair]
    exact join_safe hu (hl'.resume hr'.holds_of_shared) hr' hk fun a b h ↦ advance_safe hn h

theorem step_safe (hn : net.Keeps T) {Q : α → σ → Prop} {t : Thread γ σ α} {m : Machine γ σ}
    {p : Thread γ σ α × Machine γ σ} (h : t.Safe T Q m.state) (hs : step net t m = some p) :
    p.1.Safe T Q p.2.state := by
  unfold step at hs
  split at hs
  · cases hs
    exact wake_safe hn _ _ h
  · split at hs
    · cases hs
      exact wake_safe hn _ _ h
    · cases hs

theorem settle_safe (hn : net.Keeps T) {Q : α → σ → Prop} (events : Nat) {t : Thread γ σ α}
    {m m' : Machine γ σ} {a : α} (h : t.Safe T Q m.state)
    (hs : settle net events t m = (some a, m')) : Q a m'.state := by
  induction events generalizing t m with
  | zero =>
    cases t with
    | finished b =>
      cases hs
      exact h
    | awaiting n k => cases hs
    | queued n next => cases hs
    | pair l r k => cases hs
  | succ events ih =>
    rw [settle_succ_eq] at hs
    split at hs
    · cases hs
      exact h
    · next hp => exact ih (step_safe hn h hp) hs
    · cases hs

/-- A run in time that comes to its end does so as the judgement says. -/
theorem run_safe (hn : net.Keeps T) {Q : α → σ → Prop} (events : Nat) {t : Task γ σ α} {s : σ}
    {m : Machine γ σ} {a : α} (h : t.Safe T Q s) (hr : run net events t s = (some a, m)) :
    Q a m.state :=
  settle_safe hn events (advance_safe (m := start s) hn h) hr

end Machine

end Backoffice
