import Backoffice.Proofs.Task.Interleaving

namespace Backoffice

open Web (Request Outcome)

namespace Task

variable {γ σ π ε : Type} {α β : Type} {part : σ → π} {free : γ → Prop}

def SparesFrom (part : σ → π) (free : γ → Prop) : {α : Type} → Task γ σ α → σ → Prop
  | _, done _, _ => True
  | _, look k, s => (k s).SparesFrom part free s
  | _, update f next, s => part (f s) = part s ∧ next.SparesFrom part free (f s)
  | _, send _ k, _ => ∀ o s, (k o).SparesFrom part free s
  | _, lock g next, _ => free g ∧ ∀ s, next.SparesFrom part free s
  | _, unlock g next, s => free g ∧ next.SparesFrom part free s
  | _, both _ _ _, _ => False

structure Spares (part : σ → π) (free : γ → Prop) (t : Task γ σ α) : Prop where
  sparesFrom : ∀ s, t.SparesFrom part free s

namespace Spares

theorem done (a : α) : Spares part free (done a : Task γ σ α) := ⟨fun _ ↦ trivial⟩

theorem state {act : StateM σ α} (h : ∀ s, part (act s).2 = part s) :
    Spares part free (state act : Task γ σ α) := ⟨fun s ↦ ⟨h s, trivial⟩⟩

theorem request (r : Request) : Spares part free (request r : Task γ σ Outcome) :=
  ⟨fun _ _ _ ↦ trivial⟩

theorem acquire {g : γ} (h : free g) : Spares part free (acquire g : Task γ σ Unit) :=
  ⟨fun _ ↦ ⟨h, fun _ ↦ trivial⟩⟩

theorem release {g : γ} (h : free g) : Spares part free (release g : Task γ σ Unit) :=
  ⟨fun _ ↦ ⟨h, trivial⟩⟩

theorem bind {t : Task γ σ α} {f : α → Task γ σ β} (h : t.Spares part free)
    (hf : ∀ a, (f a).Spares part free) : (t.bind f).Spares part free := by
  refine ⟨fun s ↦ ?_⟩
  have hs := h.sparesFrom s
  clear h
  induction t generalizing s with
  | done a => exact (hf a).sparesFrom s
  | look k ih => exact ih s hf s hs
  | update g next ih => exact ⟨hs.1, ih hf _ hs.2⟩
  | send r k ih => exact fun o s' ↦ ih o hf s' (hs o s')
  | lock g next ih => exact ⟨hs.1, fun s' ↦ ih hf s' (hs.2 s')⟩
  | unlock g next ih => exact ⟨hs.1, ih hf s hs.2⟩
  | both l r k => exact hs

theorem except_bind {t : ExceptT ε (Task γ σ) α} {f : α → ExceptT ε (Task γ σ) β}
    (h : t.run.Spares part free) (hf : ∀ a, (f a).run.Spares part free) :
    (t >>= f).run.Spares part free := by
  apply h.bind (f := ExceptT.bindCont f)
  intro r
  cases r with
  | error e => exact .done _
  | ok a => exact hf a

theorem lift {t : Task γ σ α} (h : t.Spares part free) :
    (ExceptT.lift t : ExceptT ε (Task γ σ) α).run.Spares part free := h.bind fun _ ↦ .done _

theorem zoom {γ' τ κ : Type} {outer : τ → σ} {put : σ → τ → τ} {gate : γ → γ'} {view : τ → κ} {free' : γ' → Prop}
    (hp : ∀ a s, outer (put a s) = a) (hv : ∀ a s, part a = part (outer s) → view (put a s) = view s)
    (hg : ∀ g, free g → free' (gate g)) {t : Task γ σ α} (h : t.Spares part free) :
    (t.zoom outer put gate).Spares view free' := by
  refine ⟨fun s ↦ ?_⟩
  have hs := h.sparesFrom (outer s)
  clear h
  induction t generalizing s with
  | done a => trivial
  | look k ih => exact ih (outer s) s hs
  | update f next ih =>
    refine ⟨hv _ s hs.1, ih (put (f (outer s)) s) ?_⟩
    rw [hp]
    exact hs.2
  | send r k ih => exact fun o s' ↦ ih o s' (hs o _)
  | lock g next ih => exact ⟨hg g hs.1, fun s' ↦ ih s' (hs.2 _)⟩
  | unlock g next ih => exact ⟨hg g hs.1, ih s hs.2⟩
  | both l r k => exact hs.elim

theorem run_eq {t : Task γ σ α} (h : t.Spares part free) (backend : Backend) (s : σ)
    (tr : List Exchange) : part (t.run backend s tr).state = part s := by
  have hs := h.sparesFrom s
  clear h
  induction t generalizing s tr with
  | done a => rfl
  | look k ih => exact ih s s tr hs
  | update f next ih => exact (ih _ tr hs.2).trans hs.1
  | send r k ih => exact ih _ s _ (hs _ s)
  | lock g next ih => exact ih s tr (hs.2 s)
  | unlock g next ih => exact ih s tr hs.2
  | both l r k => exact hs.elim

end Spares

end Task

namespace Strand

def begun : {α : Type} → Strand γ σ α → Bool
  | _, ready _ => false
  | _, _ => true

def Spares (part : σ → π) (free : γ → Prop) : {α : Type} → Strand γ σ α → Prop
  | _, ready t => t.Spares part free
  | _, sent _ k => ∀ o, (k o).Spares part free
  | _, queued g next => free g ∧ next.Spares part free
  | _, ended _ => True
  | _, pair _ _ _ => False

end Strand

structure Share.Spared (part : σ → π) (free : γ → Prop) (s s' : Share γ σ) : Prop where
  state : part s'.state = part s.state
  held : ∀ g, ¬free g → (g ∈ s'.held ↔ g ∈ s.held)
  nodup : s.held.Nodup → s'.held.Nodup

theorem Share.Spared.refl (s : Share γ σ) : s.Spared part free s := ⟨rfl, fun _ _ ↦ .rfl, id⟩

theorem Share.Spared.trans {s s' s'' : Share γ σ} (h : s.Spared part free s')
    (h' : s'.Spared part free s'') : s.Spared part free s'' :=
  ⟨h'.state.trans h.state, fun g hg ↦ (h'.held g hg).trans (h.held g hg), h'.nodup ∘ h.nodup⟩

variable [DecidableEq γ]

theorem Task.park_begun (t : Task γ σ α) (s : Share γ σ) : (t.park s).1.begun = true := by
  induction t generalizing s with
  | done a => rfl
  | look k ih => exact ih _ s
  | update f next ih => exact ih _
  | send r k => rfl
  | lock g next => rfl
  | unlock g next ih => exact ih _
  | both l r k => rfl

theorem Task.SparesFrom.park {t : Task γ σ α} {s : Share γ σ} (h : t.SparesFrom part free s.state) :
    (t.park s).1.Spares part free ∧ s.Spared part free (t.park s).2 := by
  induction t generalizing s with
  | done a => exact ⟨trivial, .refl s⟩
  | look k ih => exact ih _ h
  | update f next ih =>
    have hu : s.Spared part free { s with state := f s.state } := ⟨h.1, fun _ _ ↦ .rfl, id⟩
    obtain ⟨hs, hk⟩ := ih (s := { s with state := f s.state }) h.2
    exact ⟨hs, hu.trans hk⟩
  | send r k => exact ⟨fun o ↦ ⟨h o⟩, .refl s⟩
  | lock g next => exact ⟨⟨h.1, ⟨h.2⟩⟩, .refl s⟩
  | unlock g next ih =>
    have hu : s.Spared part free { s with held := s.held.erase g } := by
      refine ⟨rfl, fun g' hg ↦ List.mem_erase_of_ne ?_, fun hn ↦ hn.erase g⟩
      rintro rfl
      exact hg h.1
    obtain ⟨hs, hk⟩ := ih (s := { s with held := s.held.erase g }) h.2
    exact ⟨hs, hu.trans hk⟩
  | both l r k => exact h.elim

namespace Strand

theorem go_grant (g : γ) (next : Task γ σ α) (s : Share γ σ) :
    (queued g next).go .grant s =
      if g ∈ s.held then none else some (next.park { s with held := g :: s.held }) := rfl

inductive Resumes {α : Type} : Strand γ σ α → Turn → Share γ σ → Task γ σ α → Share γ σ → Prop
  | start (t : Task γ σ α) (s : Share γ σ) : Resumes (ready t) .start s t s
  | answer (r : Request) (k : Outcome → Task γ σ α) (o : Outcome) (s : Share γ σ) :
      Resumes (sent r k) (.answer o) s (k o) s
  | grant (g : γ) (next : Task γ σ α) (s : Share γ σ) (hg : g ∉ s.held) :
      Resumes (queued g next) .grant s next { s with held := g :: s.held }

theorem resumes_of_go {st : Strand γ σ α} {t : Turn} {s : Share γ σ} {p : Strand γ σ α × Share γ σ}
    (hg : st.go t s = some p) :
    (∃ u x, st.Resumes t s u x ∧ u.park x = p) ∨
      ∃ (δ ε : Type) (l : Strand γ σ δ) (r : Strand γ σ ε) (k : δ → ε → Task γ σ α), st = pair l r k := by
  cases st with
  | ready u =>
    cases t with
    | start => exact .inl ⟨u, s, .start u s, Option.some.inj hg⟩
    | _ => cases hg
  | sent r k =>
    cases t with
    | answer o => exact .inl ⟨k o, s, .answer r k o s, Option.some.inj hg⟩
    | _ => cases hg
  | queued g next =>
    cases t with
    | grant =>
      rw [go_grant, Option.ite_none_left_eq_some] at hg
      exact .inl ⟨next, _, .grant g next s hg.1, Option.some.inj hg.2⟩
    | _ => cases hg
  | ended a => cases hg
  | pair l r k => exact .inr ⟨_, _, l, r, k, rfl⟩

theorem spares_of_go {st st' : Strand γ σ α} (h : st.Spares part free) {t : Turn} {s s' : Share γ σ}
    (hg : st.go t s = some (st', s')) :
    st'.Spares part free ∧ st'.begun = true ∧ s.Spared part free s' := by
  obtain ⟨u, x, hr, he⟩ | ⟨_, _, l, r, k, rfl⟩ := resumes_of_go hg
  · have hx : u.Spares part free ∧ s.Spared part free x := by
      cases hr with
      | start => exact ⟨h, .refl s⟩
      | answer r k o => exact ⟨h o, .refl s⟩
      | grant g _ _ hn =>
        refine ⟨h.2, rfl, fun g' hg' ↦ List.mem_cons.trans (or_iff_right ?_), fun hd ↦ ?_⟩
        · rintro rfl
          exact hg' h.1
        · exact List.nodup_cons.mpr ⟨hn, hd⟩
    obtain ⟨hp, hk⟩ := (hx.1.sparesFrom x.state).park
    have hb := u.park_begun x
    rw [he] at hp hk hb
    exact ⟨hp, hb, hx.2.trans hk⟩
  · exact h.elim

/-- A turn of a strand whose task another one follows is a turn of its own, as long as it has not ended. -/
theorem go_andThen {st : Strand γ σ α} (h : st.Spares part free) (hn : st.result? = none)
    (f : α → Task γ σ β) (t : Turn) (s₀ s : Share γ σ) :
    (st.andThen f s₀).1.go t s = (st.go t s).map fun p ↦ p.1.andThen f p.2 := by
  cases st with
  | ready u =>
    cases t with
    | start => exact congrArg some (u.park_bind f s)
    | _ => rfl
  | sent r k =>
    cases t with
    | answer o => exact congrArg some ((k o).park_bind f s)
    | _ => rfl
  | queued g next =>
    cases t with
    | grant =>
      change (queued g (next.bind f)).go .grant s = _
      rw [go_grant, go_grant, next.park_bind f]
      split <;> rfl
    | _ => rfl
  | ended a => cases hn
  | pair l r k => exact h.elim

theorem share_andThen {st : Strand γ σ α} (h : st.Spares part free) (hn : st.result? = none)
    (f : α → Task γ σ β) (s : Share γ σ) : (st.andThen f s).2 = s := by
  cases st with
  | ended a => cases hn
  | pair l r k => exact h.elim
  | _ => rfl

theorem underway_andThen {st : Strand γ σ α} (h : st.underway ≠ []) (f : α → Task γ σ β)
    (s : Share γ σ) : (st.andThen f s).1.underway = st.underway := by
  cases st with
  | ended a => exact (h rfl).elim
  | _ => rfl

end Strand

namespace Task

/-- Before any other wait a task sends a request, or it ends without one, as `Q` says. -/
structure Prompt (Q : α → Prop) (t : Task γ σ α) : Prop where
  park : ∀ s, (t.park s).1.underway ≠ [] ∨ ∃ a, Q a ∧ (t.park s).1 = .ended a

namespace Prompt

variable {Q : α → Prop} {R : β → Prop}

theorem done {a : α} (h : Q a) : Prompt Q (.done a : Task γ σ α) := ⟨fun _ ↦ .inr ⟨a, h, rfl⟩⟩

theorem state (act : StateM σ α) : Prompt (fun _ ↦ True) (state act : Task γ σ α) :=
  ⟨fun s ↦ .inr ⟨(act s.state).1, trivial, rfl⟩⟩

theorem request (r : Request) : Prompt (fun _ ↦ False) (request r : Task γ σ Outcome) :=
  ⟨fun _ ↦ .inl (List.cons_ne_nil r [])⟩

theorem bind {t : Task γ σ α} {f : α → Task γ σ β} (h : t.Prompt Q) (hf : ∀ a, Q a → (f a).Prompt R) :
    (t.bind f).Prompt R := by
  refine ⟨fun s ↦ ?_⟩
  rw [park_bind]
  rcases h.park s with hu | ⟨a, ha, he⟩
  · left
    rwa [Strand.underway_andThen hu]
  · rw [he]
    exact (hf a ha).park _

theorem except_bind {Q : Except ε α → Prop} {R : Except ε β → Prop} {t : ExceptT ε (Task γ σ) α}
    {f : α → ExceptT ε (Task γ σ) β} (h : t.run.Prompt Q) (hf : ∀ a, Q (.ok a) → (f a).run.Prompt R)
    (he : ∀ e, Q (.error e) → R (.error e)) : (t >>= f).run.Prompt R := by
  apply h.bind (f := ExceptT.bindCont f)
  intro x hx
  cases x with
  | error e => exact done (he e hx)
  | ok a => exact hf a hx

theorem lift_bind {R : Except ε β → Prop} {t : Task γ σ α} {f : α → ExceptT ε (Task γ σ) β}
    (h : t.Prompt Q) (hf : ∀ a, Q a → (f a).run.Prompt R) : (ExceptT.lift t >>= f).run.Prompt R := by
  have hl : (ExceptT.lift t : ExceptT ε (Task γ σ) α).run.Prompt fun x ↦ ∃ a, Q a ∧ x = .ok a :=
    h.bind fun a ha ↦ done ⟨a, ha, rfl⟩
  refine hl.except_bind (fun a hx ↦ ?_) fun e hx ↦ ?_
  · obtain ⟨b, hb, he⟩ := hx
    exact hf a (Except.ok.inj he ▸ hb)
  · obtain ⟨a, -, ha⟩ := hx
    cases ha

end Prompt

end Task

end Backoffice
