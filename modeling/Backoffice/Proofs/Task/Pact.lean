import Backoffice.Proofs.Task.Frame

namespace Backoffice

open Web (Request Outcome)

/-- `holds` is true of every state in which a task waits, `sends` of what is sent from a state. `count`
never falls, and it grows under the lock `gate` only. Once a state is `moot` nothing more is asked. Beside a
task that is `alone` nothing else counts. -/
structure Pact (γ σ : Type) where
  gate : γ
  holds : σ → Prop
  sends : σ → Request → Prop
  count : σ → Nat
  moot : σ → Prop
  alone : Prop

variable {γ γ' σ τ ε : Type} {α β : Type}

namespace Pact

def shared (P : Pact γ σ) : Pact γ σ := { P with alone := False }

def within (P : Pact γ σ) (part : τ → σ) (gate : γ → γ') (frame : τ → Prop) : Pact γ' τ where
  gate := gate P.gate
  holds := fun t ↦ P.holds (part t) ∧ frame t
  sends := fun t ↦ P.sends (part t)
  count := fun t ↦ P.count (part t)
  moot := fun t ↦ P.moot (part t)
  alone := P.alone

structure Rely (P : Pact γ σ) (mine : Bool) (s t : σ) : Prop where
  le : P.count s ≤ P.count t
  eq : P.alone ∨ mine = true → P.count t = P.count s

variable {P : Pact γ σ} {mine : Bool} {s t u : σ}

theorem Rely.refl (P : Pact γ σ) (mine : Bool) (s : σ) : P.Rely mine s s := ⟨Nat.le_refl _, fun _ ↦ rfl⟩

theorem Rely.trans (h : P.Rely mine s t) (h' : P.Rely mine t u) : P.Rely mine s u :=
  ⟨Nat.le_trans h.le h'.le, fun ha ↦ (h'.eq ha).trans (h.eq ha)⟩

def rests (P : Pact γ σ) : Bool → α → σ → Prop := fun mine _ s ↦ mine = false ∧ P.holds s

end Pact

namespace Task

structure Nests (part : τ → σ) (put : σ → τ → τ) (gate : γ → γ') (frame : τ → Prop) (P : Pact γ σ)
    (P' : Pact γ' τ) : Prop where
  part_put : ∀ a t, part (put a t) = a
  frame_put : ∀ a {t}, frame t → frame (put a t)
  gate : ∀ g, gate g = P'.gate ↔ g = P.gate
  holds : ∀ {t}, frame t → P.holds (part t) → P'.holds t
  of_holds : ∀ {t}, P'.holds t → P.holds (part t) ∧ frame t
  sends : ∀ {t r}, frame t → P.sends (part t) r → P'.sends t r
  count : ∀ {t}, frame t → P'.count t = P.count (part t)
  moot : ∀ {t}, frame t → P.moot (part t) → P'.moot t
  of_moot : ∀ t, P'.moot t → ∃ s, P.moot s
  alone : P.alone → P'.alone

namespace Nests

variable {part : τ → σ} {put : σ → τ → τ} {gate : γ → γ'} {frame : τ → Prop} {P : Pact γ σ}
  {P' : Pact γ' τ}

theorem shared (hn : Nests part put gate frame P P') : Nests part put gate frame P.shared P'.shared where
  part_put := hn.part_put
  frame_put := hn.frame_put
  gate := hn.gate
  holds := hn.holds
  of_holds := hn.of_holds
  sends := hn.sends
  count := hn.count
  moot := hn.moot
  of_moot := hn.of_moot
  alone := id

theorem within (hp : ∀ a t, part (put a t) = a) (hf : ∀ a {t}, frame t → frame (put a t))
    (hg : ∀ g, gate g = gate P.gate ↔ g = P.gate) :
    Nests part put gate frame P (P.within part gate frame) where
  part_put := hp
  frame_put := hf
  gate := hg
  holds hf h := ⟨h, hf⟩
  of_holds h := h
  sends _ h := h
  count _ := rfl
  moot _ h := h
  of_moot t h := ⟨part t, h⟩
  alone := id

theorem rely {mine : Bool} (hn : Nests part put gate frame P P') {s t : τ} (hs : frame s) (ht : frame t)
    (h : P'.Rely mine s t) : P.Rely mine (part s) (part t) where
  le := by simpa only [hn.count hs, hn.count ht] using h.le
  eq ha := by simpa only [hn.count hs, hn.count ht] using h.eq (ha.imp_left hn.alone)

end Nests

variable [DecidableEq γ] [DecidableEq γ']

/-- Whether a task that goes on from a state, with the lock or without it, keeps the pact and ends
in `Q`. -/
def Honours : {α : Type} → Task γ σ α → Pact γ σ → (Bool → α → σ → Prop) → Bool → σ → Prop
  | _, done a, _, Q, mine, s => Q mine a s
  | _, look k, P, Q, mine, s => (k s).Honours P Q mine s
  | _, update f next, P, Q, mine, s =>
    (P.count (f s) = P.count s ∨ mine = true ∧ P.count s ≤ P.count (f s)) ∧
      next.Honours P Q mine (f s)
  | _, send r k, P, Q, mine, s =>
    P.moot s ∨ P.holds s ∧ P.sends s r ∧
      ∀ o t, P.holds t → P.Rely mine s t → (k o).Honours P Q mine t
  | _, lock g next, P, Q, mine, s =>
    P.holds s ∧ (g = P.gate → mine = false) ∧
      ∀ t, P.holds t → P.Rely mine s t → next.Honours P Q (mine || g = P.gate) t
  | _, unlock g next, P, Q, mine, s =>
    (g = P.gate → mine = true) ∧ next.Honours P Q (mine && g ≠ P.gate) s
  | _, both l r k, P, Q, mine, s =>
    mine = false ∧ (∀ t, ¬P.moot t) ∧ P.holds s ∧
      (∀ t, P.holds t → l.Honours P.shared P.rests false t) ∧
      (∀ t, P.holds t → r.Honours P.shared P.rests false t) ∧
      ∀ a b t, P.holds t → (k a b).Honours P Q false t

variable {P : Pact γ σ} {mine : Bool} {s : σ} {t : Task γ σ α} {Q Q' : Bool → α → σ → Prop}
  {R : Bool → β → σ → Prop}

namespace Honours

theorem mono (h : t.Honours P Q mine s) (hq : ∀ m a s, Q m a s → Q' m a s) : t.Honours P Q' mine s := by
  induction t generalizing mine s with
  | done a => exact hq _ _ _ h
  | look k ih => exact ih s h hq
  | update f next ih => exact ⟨h.1, ih h.2 hq⟩
  | send r k ih => exact h.imp_right fun h ↦ ⟨h.1, h.2.1, fun o t ht hr ↦ ih o (h.2.2 o t ht hr) hq⟩
  | lock g next ih => exact ⟨h.1, h.2.1, fun t ht hr ↦ ih (h.2.2 t ht hr) hq⟩
  | unlock g next ih => exact ⟨h.1, ih h.2 hq⟩
  | both l r k _ _ ih =>
    obtain ⟨hm, ho, hs, hl, hr, hk⟩ := h
    exact ⟨hm, ho, hs, hl, hr, fun a b t ht ↦ ih a b (hk a b t ht) hq⟩

theorem bind {f : α → Task γ σ β} (h : t.Honours P Q mine s)
    (hf : ∀ m a s, Q m a s → (f a).Honours P R m s) : (t.bind f).Honours P R mine s := by
  induction t generalizing mine s with
  | done a => exact hf _ _ _ h
  | look k ih => exact ih s h hf
  | update g next ih => exact ⟨h.1, ih h.2 hf⟩
  | send r k ih => exact h.imp_right fun h ↦ ⟨h.1, h.2.1, fun o t ht hr ↦ ih o (h.2.2 o t ht hr) hf⟩
  | lock g next ih => exact ⟨h.1, h.2.1, fun t ht hr ↦ ih (h.2.2 t ht hr) hf⟩
  | unlock g next ih => exact ⟨h.1, ih h.2 hf⟩
  | both l r k _ _ ih =>
    obtain ⟨hm, ho, hs, hl, hr, hk⟩ := h
    exact ⟨hm, ho, hs, hl, hr, fun a b t ht ↦ ih a b (hk a b t ht) hf⟩

theorem lift_bind {R : Bool → Except ε β → σ → Prop} {f : α → ExceptT ε (Task γ σ) β}
    (h : t.Honours P Q mine s) (hf : ∀ m a s, Q m a s → (f a).run.Honours P R m s) :
    (ExceptT.lift t >>= f).run.Honours P R mine s := by
  change ((t.bind fun a ↦ .done (.ok a)).bind (ExceptT.bindCont f)).Honours P R mine s
  rw [bind_assoc]
  exact h.bind hf

end Honours

theorem Honours.zoom {part : τ → σ} {put : σ → τ → τ} {gate : γ → γ'} {frame : τ → Prop} {P' : Pact γ' τ}
    {s : τ} (hn : Nests part put gate frame P P') (h : t.Honours P Q mine (part s)) (hs : frame s) :
    (t.zoom part put gate).Honours P' (fun m a s ↦ Q m a (part s) ∧ frame s) mine s := by
  -- The strands of a pair keep a pact of their own, so `P` varies in the induction.
  have rests {β : Type} {P : Pact γ σ} {P' : Pact γ' τ} (hn : Nests part put gate frame P P')
      (m : Bool) (b : β) (s : τ) (h : P.rests m b (part s) ∧ frame s) : P'.rests m b s :=
    ⟨h.1.1, hn.holds h.2 h.1.2⟩
  induction t generalizing mine s P P' with
  | done a => exact ⟨h, hs⟩
  | look k ih => exact ih _ hn h hs
  | update f next ih =>
    have hf := hn.frame_put (f (part s)) hs
    refine ⟨?_, ih hn ?_ hf⟩
    · simpa only [hn.count hs, hn.count hf, hn.part_put] using h.1
    · rw [hn.part_put]
      exact h.2
  | send r k ih =>
    refine h.imp (hn.moot hs) fun h ↦ ⟨hn.holds hs h.1, hn.sends hs h.2.1, fun o t ht hr ↦ ?_⟩
    obtain ⟨ht, hf⟩ := hn.of_holds ht
    exact ih o hn (h.2.2 o _ ht (hn.rely hs hf hr)) hf
  | lock g next ih =>
    refine ⟨hn.holds hs h.1, fun hg ↦ h.2.1 ((hn.gate g).mp hg), fun t ht hr ↦ ?_⟩
    obtain ⟨ht, hf⟩ := hn.of_holds ht
    simp only [hn.gate g]
    exact ih hn (h.2.2 _ ht (hn.rely hs hf hr)) hf
  | unlock g next ih =>
    refine ⟨fun hg ↦ h.1 ((hn.gate g).mp hg), ?_⟩
    simp only [ne_eq, hn.gate g]
    exact ih hn h.2 hs
  | both l r k ihl ihr ih =>
    obtain ⟨hm, ho, hs', hl, hr, hk⟩ := h
    refine ⟨hm, fun t ht ↦ ?_, hn.holds hs hs', fun t ht ↦ ?_, fun t ht ↦ ?_, fun a b t ht ↦ ?_⟩
    · obtain ⟨s, hs⟩ := hn.of_moot t ht
      exact ho s hs
    · obtain ⟨ht, hf⟩ := hn.of_holds ht
      exact (ihl hn.shared (hl _ ht) hf).mono (rests hn)
    · obtain ⟨ht, hf⟩ := hn.of_holds ht
      exact (ihr hn.shared (hr _ ht) hf).mono (rests hn)
    · obtain ⟨ht, hf⟩ := hn.of_holds ht
      exact ih a b hn (hk a b _ ht) hf

end Task

namespace Strand

def launched : {α : Type} → Strand γ σ α → Turn → List Request
  | _, pair l _ _, .left t => l.launched t
  | _, pair _ r _, .right t => r.launched t
  | _, st, _ => st.underway

theorem underway_of_launched {st : Strand γ σ α} {t : Turn} {r : Request} (h : r ∈ st.launched t) :
    r ∈ st.underway := by
  induction st generalizing t with
  | pair l x k ihl ihr =>
    cases t with
    | left t => exact List.mem_append_left _ (ihl h)
    | right t => exact List.mem_append_right _ (ihr h)
    | _ => exact h
  | _ => cases t <;> exact h

variable [DecidableEq γ]

def Honours : {α : Type} → Strand γ σ α → Pact γ σ → (Bool → α → σ → Prop) → Bool → σ → Prop
  | _, ready t, P, Q, mine, s => mine = false ∧ P.holds s ∧ ∀ u, P.holds u → t.Honours P Q false u
  | _, sent _ k, P, Q, mine, s =>
    P.moot s ∨ P.holds s ∧ ∀ o u, P.holds u → P.Rely mine s u → (k o).Honours P Q mine u
  | _, queued g next, P, Q, mine, s =>
    P.holds s ∧ (g = P.gate → mine = false) ∧
      ∀ u, P.holds u → P.Rely mine s u → next.Honours P Q (mine || g = P.gate) u
  | _, ended a, _, Q, mine, s => Q mine a s
  | _, pair l r k, P, Q, mine, s =>
    (∀ t, ¬P.moot t) ∧ (∃ ml mr, (ml && mr) = false ∧ (ml || mr) = mine ∧
      l.Honours P.shared P.rests ml s ∧ r.Honours P.shared P.rests mr s) ∧
      ∀ a b u, P.holds u → (k a b).Honours P Q false u

variable {P : Pact γ σ} {mine : Bool} {s u : σ} {Q : Bool → α → σ → Prop} {st : Strand γ σ α}

theorem Honours.holds_of_rests (h : st.Honours P.shared P.rests mine s) (ho : ∀ t, ¬P.moot t) :
    P.holds s := by
  induction st generalizing mine with
  | ready t => exact h.2.1
  | sent r k => exact (h.resolve_left (ho s)).1
  | queued g next => exact h.1
  | ended a => exact h.2
  | pair l r k ihl =>
    obtain ⟨-, ⟨ml, mr, -, -, hl, -⟩, -⟩ := h
    exact ihl hl

theorem Honours.holds_or_ended (h : st.Honours P Q mine s) (ho : ¬P.moot s) :
    P.holds s ∨ ∃ a, st = .ended a ∧ Q mine a s := by
  cases st with
  | ready t => exact .inl h.2.1
  | sent r k => exact .inl (h.resolve_left ho).1
  | queued g next => exact .inl h.1
  | ended a => exact .inr ⟨a, rfl, h⟩
  | pair l r k =>
    obtain ⟨hov, ⟨ml, mr, -, -, hl, -⟩, -⟩ := h
    exact .inl (hl.holds_of_rests hov)

theorem Honours.resume (h : st.Honours P Q mine s) (hs : ¬P.moot s) (hu : P.holds u)
    (hr : P.Rely mine s u) (hq : ∀ a, st = .ended a → Q mine a u) : st.Honours P Q mine u := by
  induction st generalizing mine P with
  | ready t => exact ⟨h.1, hu, h.2.2⟩
  | sent r k => exact .inr ⟨hu, fun o x hx hux ↦ (h.resolve_left hs).2 o x hx (hr.trans hux)⟩
  | queued g next => exact ⟨hu, h.2.1, fun x hx hux ↦ h.2.2 x hx (hr.trans hux)⟩
  | ended a => exact hq a rfl
  | pair l r k ihl ihr =>
    obtain ⟨ho, ⟨ml, mr, hn, rfl, hl, hr'⟩, hk⟩ := h
    have rely {m : Bool} (hm : m = true → (ml || mr) = true) : P.shared.Rely m s u :=
      ⟨hr.le, fun ha ↦ hr.eq (.inr (hm (ha.resolve_left id)))⟩
    have rests {β : Type} {m : Bool} {x : Strand γ σ β} (hx : x.Honours P.shared P.rests m s) (b : β)
        (hb : x = .ended b) : P.rests m b u := by
      subst hb
      exact ⟨hx.1, hu⟩
    refine ⟨ho, ⟨ml, mr, hn, rfl, ?_, ?_⟩, hk⟩
    · exact ihl hl hs hu (rely fun hm ↦ by rw [hm, Bool.true_or]) (rests hl)
    · exact ihr hr' hs hu (rely fun hm ↦ by rw [hm, Bool.or_true]) (rests hr')

end Strand

variable [DecidableEq γ]

structure Pact.Turned (P : Pact γ σ) (mine : Bool) (s : Share γ σ) (mine' : Bool) (s' : Share γ σ) :
    Prop where
  held : mine' = true → P.gate ∈ s'.held
  le : P.count s.state ≤ P.count s'.state
  spared : mine = false → P.gate ∈ s.held →
    mine' = false ∧ P.gate ∈ s'.held ∧ P.count s'.state = P.count s.state

variable {P : Pact γ σ} {mine : Bool} {Q : Bool → α → σ → Prop}

/-- A segment of a task that has the lock if it is said to. Without the lock it does not count. -/
theorem Task.Honours.park {t : Task γ σ α} {s : Share γ σ} (h : t.Honours P Q mine s.state)
    (hm : mine = true → P.gate ∈ s.held) :
    (∃ mine', (t.park s).1.Honours P Q mine' (t.park s).2.state ∧ P.Turned mine s mine' (t.park s).2) ∧
    (mine = false → P.count (t.park s).2.state = P.count s.state) ∧
    ∀ r ∈ (t.park s).1.underway, P.moot (t.park s).2.state ∨ P.sends (t.park s).2.state r := by
  have still {mine : Bool} (s : Share γ σ) (hm : mine = true → P.gate ∈ s.held) :
      P.Turned mine s mine s :=
    ⟨hm, Nat.le_refl _, fun hn hg ↦ ⟨hn, hg, rfl⟩⟩
  induction t generalizing mine s with
  | done a => exact ⟨⟨mine, h, still s hm⟩, fun _ ↦ rfl, nofun⟩
  | look k ih => exact ih s.state h hm
  | update f next ih =>
    obtain ⟨⟨mine', hp, ht⟩, hc, hs⟩ := ih (s := { s with state := f s.state }) h.2 hm
    have he : mine = false → P.count (f s.state) = P.count s.state :=
      fun hn ↦ h.1.resolve_right fun hx ↦ by cases hn.symm.trans hx.1
    have hle : P.count s.state ≤ P.count (f s.state) := h.1.elim (fun he ↦ he ▸ Nat.le_refl _) And.right
    refine ⟨⟨mine', hp, ht.held, Nat.le_trans hle ht.le, fun hn hg ↦ ?_⟩, fun hn ↦ (hc hn).trans (he hn), hs⟩
    obtain ⟨h₁, h₂, h₃⟩ := ht.spared hn hg
    exact ⟨h₁, h₂, h₃.trans (he hn)⟩
  | send r k =>
    refine ⟨⟨mine, h.imp_right fun h ↦ ⟨h.1, h.2.2⟩, still s hm⟩, fun _ ↦ rfl, fun r' hr ↦ ?_⟩
    cases List.mem_singleton.mp hr
    exact h.imp_right fun h ↦ h.2.1
  | lock g next => exact ⟨⟨mine, h, still s hm⟩, fun _ ↦ rfl, nofun⟩
  | unlock g next ih =>
    -- Only whoever has the lock gives it back, so there is nothing to show for a task without it.
    by_cases hg : g = P.gate
    · have hmine := h.1 hg
      have hn : (mine && decide (g ≠ P.gate)) = false := by simp [hg]
      have hu := h.2
      rw [hn] at hu
      obtain ⟨⟨mine', hp, ht⟩, -, hs⟩ := ih (s := { s with held := s.held.erase g }) hu nofun
      refine ⟨⟨mine', hp, ht.held, ht.le, fun hx ↦ ?_⟩, fun hx ↦ ?_, hs⟩
      · cases hmine.symm.trans hx
      · cases hmine.symm.trans hx
    · have he : (mine && decide (g ≠ P.gate)) = mine := by simp [hg]
      have hk : P.gate ∈ s.held → P.gate ∈ s.held.erase g := (List.mem_erase_of_ne (Ne.symm hg)).mpr
      have hu := h.2
      rw [he] at hu
      obtain ⟨⟨mine', hp, ht⟩, hc, hs⟩ := ih (s := { s with held := s.held.erase g }) hu (hk ∘ hm)
      exact ⟨⟨mine', hp, ht.held, ht.le, fun hn hg ↦ ht.spared hn (hk hg)⟩, hc, hs⟩
  | both l r k =>
    obtain ⟨rfl, ho, hs, hl, hr, hk⟩ := h
    refine ⟨⟨false, ⟨ho, ⟨false, false, rfl, rfl, ?_, ?_⟩, hk⟩, still s hm⟩, fun _ ↦ rfl, nofun⟩
    · exact ⟨rfl, hs, hl⟩
    · exact ⟨rfl, hs, hr⟩

namespace Strand

theorem go_pair {δ : Type} {l : Strand γ σ α} {r : Strand γ σ β} {k : α → β → Task γ σ δ} {t : Turn}
    {s : Share γ σ} {p : Strand γ σ δ × Share γ σ} (hg : (pair l r k).go t s = some p) :
    (t = .join ∧ ∃ a b, l = .ended a ∧ r = .ended b ∧ some ((k a b).park s) = some p) ∨
    (∃ u q, t = .left u ∧ l.go u s = some q ∧ p = (pair q.1 r k, q.2)) ∨
    ∃ u q, t = .right u ∧ r.go u s = some q ∧ p = (pair l q.1 k, q.2) := by
  cases t with
  | left u =>
    have he : (pair l r k).go (.left u) s = (l.go u s).map fun q ↦ (pair q.1 r k, q.2) := by
      cases l <;> cases r <;> rfl
    obtain ⟨q, hq, rfl⟩ := Option.map_eq_some_iff.mp (he ▸ hg)
    exact .inr (.inl ⟨u, q, rfl, hq, rfl⟩)
  | right u =>
    have he : (pair l r k).go (.right u) s = (r.go u s).map fun q ↦ (pair l q.1 k, q.2) := by
      cases l <;> cases r <;> rfl
    obtain ⟨q, hq, rfl⟩ := Option.map_eq_some_iff.mp (he ▸ hg)
    exact .inr (.inr ⟨u, q, rfl, hq, rfl⟩)
  | join =>
    cases l <;> cases r <;> cases hg
    exact .inl ⟨rfl, _, _, rfl, rfl, rfl⟩
  | _ => cases l <;> cases r <;> cases hg

/-- Of two strands side by side one has taken a turn: the other one waits on, and not both hold the
lock. -/
theorem Honours.beside {x' : Strand γ σ α} {y : Strand γ σ β} {mx mx' my : Bool} {s s' : Share γ σ}
    (hx : x'.Honours P.shared P.rests mx' s'.state) (ht : P.shared.Turned mx s mx' s')
    (hy : y.Honours P.shared P.rests my s.state) (hn : (mx && my) = false)
    (hm : (mx || my) = true → P.gate ∈ s.held) (ho : ∀ t, ¬P.moot t) :
    y.Honours P.shared P.rests my s'.state ∧ (mx' && my) = false ∧
      P.Turned (mx || my) s (mx' || my) s' := by
  have hs : P.holds s'.state := hx.holds_of_rests ho
  have hspared (h : my = true) := ht.spared (by simpa [h] using hn) (hm (by simp [h]))
  refine ⟨hy.resume (ho _) hs ⟨ht.le, fun ha ↦ (hspared (ha.resolve_left id)).2.2⟩ ?_, ?_, ?_, ht.le, ?_⟩
  · rintro b rfl
    exact ⟨hy.1, hs⟩
  · cases my with
    | false => exact Bool.and_false _
    | true => rw [(hspared rfl).1, Bool.false_and]
  · intro h
    rcases Bool.or_eq_true .. ▸ h with h | h
    · exact ht.held h
    · exact (hspared h).2.1
  · intro h hg
    obtain ⟨hx, hy⟩ := Bool.or_eq_false_iff.mp h
    obtain ⟨h₁, h₂, h₃⟩ := ht.spared hx hg
    exact ⟨by rw [h₁, hy, Bool.false_or], h₂, h₃⟩

theorem Honours.resumed {st : Strand γ σ α} {t : Turn} {s x : Share γ σ} {u : Task γ σ α}
    (h : st.Honours P Q mine s.state) (hm : mine = true → P.gate ∈ s.held) (ho : ¬P.moot s.state)
    (hr : st.Resumes t s u x) :
    ∃ m, u.Honours P Q m x.state ∧ (m = true → P.gate ∈ x.held) ∧ x.state = s.state ∧
      (mine = false → P.gate ∈ s.held → m = false ∧ P.gate ∈ x.held) := by
  cases hr with
  | start => exact ⟨mine, h.1 ▸ h.2.2 _ h.2.1, hm, rfl, fun hn hg ↦ ⟨hn, hg⟩⟩
  | answer r k o =>
    have hk := h.resolve_left ho
    exact ⟨mine, hk.2 o _ hk.1 (.refl P mine _), hm, rfl, fun hn hg ↦ ⟨hn, hg⟩⟩
  | grant g _ _ hg =>
    refine ⟨_, h.2.2 _ h.1 (.refl P mine _), fun hx ↦ ?_, rfl, fun hn hx ↦ ⟨?_, ?_⟩⟩
    · rcases Bool.or_eq_true .. ▸ hx with hx | hx
      · exact List.mem_cons_of_mem _ (hm hx)
      · exact List.mem_cons.mpr (.inl (of_decide_eq_true hx).symm)
    -- The lock that it has now was free, so it is not the one that another one holds.
    · have hne : g ≠ P.gate := fun he ↦ hg (he ▸ hx)
      simp [hn, hne]
    · exact List.mem_cons_of_mem _ hx

/-- A task that goes on runs to its next wait. It may have taken a lock just before. -/
theorem honours_of_park {t : Turn} {u : Task γ σ α} {m : Bool} {s s' x : Share γ σ} {st' : Strand γ σ α}
    (hu : u.Honours P Q m x.state) (hm : m = true → P.gate ∈ x.held) (hs : x.state = s.state)
    (hk : mine = false → P.gate ∈ s.held → m = false ∧ P.gate ∈ x.held) (he : u.park x = (st', s')) :
    (∃ mine', st'.Honours P Q mine' s'.state ∧ P.Turned mine s mine' s') ∧
    ∀ r ∈ st'.launched t, P.moot s'.state ∨ P.sends s'.state r := by
  obtain ⟨⟨mine', hp, ht⟩, -, hr⟩ := hu.park hm
  rw [he] at hp ht hr
  refine ⟨⟨mine', hp, ht.held, hs ▸ ht.le, fun hn hg ↦ ?_⟩, fun r h ↦ hr r (underway_of_launched h)⟩
  obtain ⟨hn, hg⟩ := hk hn hg
  exact hs ▸ ht.spared hn hg

/-- A turn of a strand that has the lock if it is said to. -/
theorem Honours.go {st st' : Strand γ σ α} {t : Turn} {s s' : Share γ σ}
    (h : st.Honours P Q mine s.state) (hm : mine = true → P.gate ∈ s.held) (ho : ¬P.moot s.state)
    (hg : st.go t s = some (st', s')) :
    (∃ mine', st'.Honours P Q mine' s'.state ∧ P.Turned mine s mine' s') ∧
    ∀ r ∈ st'.launched t, P.moot s'.state ∨ P.sends s'.state r := by
  induction st generalizing t mine P with
  | pair l r k ihl ihr =>
    obtain ⟨hov, ⟨ml, mr, hn, rfl, hl, hr⟩, hk⟩ := h
    rcases go_pair hg with ⟨rfl, a, b, rfl, rfl, he⟩ | ⟨u, q, rfl, hq, he⟩ | ⟨u, q, rfl, hq, he⟩
    · exact honours_of_park (hk a b _ hl.2) nofun rfl (fun _ hg ↦ ⟨rfl, hg⟩) (Option.some.inj he)
    · cases he
      obtain ⟨⟨ml', hl', ht⟩, hs⟩ := ihl hl (fun h ↦ hm (by simp [h])) ho hq
      obtain ⟨hr', hn', ht'⟩ := hl'.beside ht hr hn hm hov
      exact ⟨⟨_, ⟨hov, ⟨ml', mr, hn', rfl, hl', hr'⟩, hk⟩, ht'⟩, hs⟩
    · cases he
      obtain ⟨⟨mr', hr', ht⟩, hs⟩ := ihr hr (fun h ↦ hm (by simp [h])) ho hq
      obtain ⟨hl', hn', ht'⟩ := hr'.beside ht hl (by rwa [Bool.and_comm]) (by rwa [Bool.or_comm]) hov
      rw [Bool.or_comm mr, Bool.or_comm mr'] at ht'
      exact ⟨⟨_, ⟨hov, ⟨ml, mr', by rwa [Bool.and_comm], rfl, hl', hr'⟩, hk⟩, ht'⟩, hs⟩
  | _ =>
    obtain ⟨u, x, hr, he⟩ | ⟨_, _, _, _, _, ⟨⟩⟩ := resumes_of_go hg
    obtain ⟨m, hu, hm', hs, hk⟩ := h.resumed hm ho hr
    exact honours_of_park hu hm' hs hk he

end Strand

end Backoffice
