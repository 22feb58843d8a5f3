import Backoffice.Client.Context
import Backoffice.Proofs.Storage.Credential
import Backoffice.Proofs.Task.Safety
import Backoffice.Task.Alone

namespace Backoffice

open Web (Request Outcome)

structure View where
  sight : Sight
  context : Context

namespace Console

def view (c : Console) : View := ⟨c.profile.sight, c.context⟩

def Reliable (c : Console) : Prop := c.profile.Reliable

variable {α β : Type}

/-- A task that runs alone, comes to `a`, and makes the view `v` into `v'` and the exchanges `tr`
into `tr'`. -/
structure Comes (backend : Backend) (t : ConsoleM α) (v : View) (tr : List Exchange) (a : α)
    (v' : View) (tr' : List Exchange) : Prop where
  run : ∀ c : Console, c.Reliable → c.view = v →
    ∃ c', t.run backend c tr = ⟨a, c', tr'⟩ ∧ c'.Reliable ∧ c'.view = v'

variable {backend : Backend} {v v' v'' : View} {tr tr' tr'' : List Exchange} {a : α} {b : β}

theorem Comes.done (a : α) (v : View) (tr : List Exchange) :
    Comes backend (.done a) v tr a v tr := ⟨fun c hc hv ↦ ⟨c, rfl, hc, hv⟩⟩

theorem Comes.bind {t : ConsoleM α} {f : α → ConsoleM β} (h : Comes backend t v tr a v' tr')
    (hf : Comes backend (f a) v' tr' b v'' tr'') : Comes backend (t.bind f) v tr b v'' tr'' where
  run c hc hv := by
    obtain ⟨c', he, hc', hv'⟩ := h.run c hc hv
    obtain ⟨c'', he', hc'', hv''⟩ := hf.run c' hc' hv'
    exact ⟨c'', by simp only [Task.run_bind, he, he'], hc'', hv''⟩

theorem Comes.onProfile {act : StateM Profile α} {s : Sight} (h : Profile.Does act v.sight a s)
    (tr : List Exchange) : Comes backend (onProfile act) v tr a ⟨s, v.context⟩ tr where
  run c hc hv := by
    subst hv
    obtain ⟨p, he, hp, hs⟩ := h c.profile hc rfl
    refine ⟨⟨p, c.context⟩, ?_, hp, ?_⟩
    · simp only [Console.onProfile, Task.run_state, he]
    · subst hs
      rfl

theorem Comes.read (f : Context → α) (v : View) (tr : List Exchange) :
    Comes backend (read f) v tr (f v.context) v tr where
  run c hc hv := by
    subst hv
    exact ⟨c, rfl, hc, rfl⟩

theorem Comes.modify (f : Context → Context) (v : View) (tr : List Exchange) :
    Comes backend (modify f) v tr () ⟨v.sight, f v.context⟩ tr where
  run c hc hv := by
    subst hv
    exact ⟨_, rfl, hc, rfl⟩

theorem Comes.request (r : Request) (v : View) (tr : List Exchange) :
    Comes backend (Task.request r) v tr (backend tr r) v (⟨r, backend tr r⟩ :: tr) :=
  ⟨fun c hc hv ↦ ⟨c, rfl, hc, hv⟩⟩

theorem Comes.acquire (g : Gate) (v : View) (tr : List Exchange) :
    Comes backend (Task.acquire g) v tr () v tr := ⟨fun c hc hv ↦ ⟨c, rfl, hc, hv⟩⟩

theorem Comes.release (g : Gate) (v : View) (tr : List Exchange) :
    Comes backend (Task.release g) v tr () v tr := ⟨fun c hc hv ↦ ⟨c, rfl, hc, hv⟩⟩

abbrev ComesTo (backend : Backend) (t : Action α) (v : View) (tr : List Exchange)
    (a : Except ClientError α) (v' : View) (tr' : List Exchange) : Prop :=
  Comes backend t.run v tr a v' tr'

variable {e : ClientError}

theorem ComesTo.pure (a : α) (v : View) (tr : List Exchange) :
    ComesTo backend (Pure.pure a) v tr (.ok a) v tr := Comes.done _ v tr

theorem ComesTo.throw (e : ClientError) (v : View) (tr : List Exchange) :
    ComesTo backend (throw e : Action α) v tr (.error e) v tr := Comes.done _ v tr

theorem ComesTo.bind {t : Action α} {f : α → Action β} {r : Except ClientError β}
    (h : ComesTo backend t v tr (.ok a) v' tr') (hf : ComesTo backend (f a) v' tr' r v'' tr'') :
    ComesTo backend (t >>= f) v tr r v'' tr'' :=
  Comes.bind (f := ExceptT.bindCont f) h hf

theorem ComesTo.bind_error {t : Action α} {f : α → Action β}
    (h : ComesTo backend t v tr (.error e) v' tr') :
    ComesTo backend (t >>= f) v tr (.error e) v' tr' :=
  Comes.bind (f := ExceptT.bindCont f) h (.done _ v' tr')

theorem Comes.sure {t : ConsoleM α} (h : Comes backend t v tr a v' tr') :
    ComesTo backend (sure t) v tr (.ok a) v' tr' :=
  h.bind (.done _ v' tr')

theorem ComesTo.stored {act : ProfileM α} {s : Sight} (h : Profile.Does act.run v.sight (.ok a) s)
    (tr : List Exchange) : ComesTo backend (stored act) v tr (.ok a) ⟨s, v.context⟩ tr :=
  ComesTo.bind (Comes.onProfile h tr).sure (.pure a _ tr)

def seen (T : Terms View) : Terms Console where
  holds := fun c ↦ c.Reliable ∧ T.holds c.view
  rely := fun c d ↦ T.rely c.view d.view
  sends := T.sends
  refl := fun c ↦ T.refl c.view
  trans := T.trans

/-- A task that goes on from the view `v`, keeps to the terms and ends in `Q`. -/
structure Ensures (T : Terms View) (t : ConsoleM α) (v : View) (Q : α → View → Prop) : Prop where
  safe : ∀ c : Console, c.Reliable → c.view = v →
    t.Safe (seen T) (fun a c ↦ c.Reliable ∧ Q a c.view) c

variable {T T' : Terms View} {Q R : α → View → Prop} {Q' : β → View → Prop}

theorem Ensures.done (h : Q a v) : Ensures T (.done a) v Q where
  safe c hc hv := by
    subst hv
    exact ⟨hc, h⟩

theorem Ensures.bind {t : ConsoleM α} {f : α → ConsoleM β} (h : Ensures T t v R)
    (hf : ∀ a v, R a v → Ensures T (f a) v Q') : Ensures T (t.bind f) v Q' where
  safe c hc hv := (h.safe c hc hv).bind fun a c hR ↦ (hf a c.view hR.2).safe c hR.1 rfl

theorem Ensures.mono {t : ConsoleM α} (h : Ensures T t v R) (hq : ∀ a v, R a v → Q a v) :
    Ensures T t v Q where
  safe c hc hv := (h.safe c hc hv).mono fun a c hR ↦ ⟨hR.1, hq a c.view hR.2⟩

theorem Ensures.onProfile {act : StateM Profile α} {s : Sight} (h : Profile.Does act v.sight a s)
    (hq : Q a ⟨s, v.context⟩) : Ensures T (onProfile act) v Q where
  safe c hc hv := by
    subst hv
    obtain ⟨p, he, hp, hs⟩ := h c.profile hc rfl
    subst hs
    change _ ∧ _
    simp only [he]
    exact ⟨hp, hq⟩

theorem Ensures.read {f : Context → α} (hq : Q (f v.context) v) : Ensures T (read f) v Q where
  safe c hc hv := by
    subst hv
    exact ⟨hc, hq⟩

theorem Ensures.modify {f : Context → Context} {Q : Unit → View → Prop}
    (hq : Q () ⟨v.sight, f v.context⟩) : Ensures T (modify f) v Q where
  safe c hc hv := by
    subst hv
    exact ⟨hc, hq⟩

theorem Ensures.request {r : Request} {Q : Outcome → View → Prop} (hv : T.holds v)
    (hr : T.sends r) (hq : ∀ o w, T.holds w → T.rely v w → Q o w) :
    Ensures T (Task.request r) v Q where
  safe c hc he := by
    subst he
    exact ⟨⟨hc, hv⟩, hr, fun o d hd hcd ↦ ⟨hd.1, hq o d.view hd.2 hcd⟩⟩

theorem Ensures.acquire {g : Gate} {Q : Unit → View → Prop} (hv : T.holds v)
    (hq : ∀ w, T.holds w → T.rely v w → Q () w) : Ensures T (Task.acquire g) v Q where
  safe c hc he := by
    subst he
    exact ⟨⟨hc, hv⟩, fun d hd hcd ↦ ⟨hd.1, hq d.view hd.2 hcd⟩⟩

theorem Ensures.release {g : Gate} {Q : Unit → View → Prop} (hq : Q () v) :
    Ensures T (Task.release g) v Q where
  safe c hc hv := by
    subst hv
    exact ⟨hc, hq⟩

/-- What is ensured under terms is so under others that ask less of a task and promise it more. -/
theorem Ensures.weaken {t : ConsoleM α} (h : Ensures T t v Q) (hh : ∀ {v}, T.holds v → T'.holds v)
    (hr : ∀ {v w}, T.holds v → T'.rely v w → T'.holds w → T.holds w ∧ T.rely v w)
    (hs : ∀ {r}, T.sends r → T'.sends r) : Ensures T' t v Q where
  safe c hc hv := (h.safe c hc hv).weaken (fun h ↦ ⟨h.1, hh h.2⟩)
    (fun h hcd hd ↦ ⟨⟨hd.1, (hr h.2 hcd hd.2).1⟩, (hr h.2 hcd hd.2).2⟩) hs

theorem steady_iff {t : ConsoleM α} :
    Task.Steady (seen T) t ↔ ∀ v, T.holds v → Ensures T t v fun _ ↦ T.holds :=
  ⟨fun h _ hv ↦ ⟨fun c hc he ↦ h.safe c ⟨hc, he ▸ hv⟩⟩,
    fun h ↦ ⟨fun c hc ↦ (h c.view hc.2).safe c hc.1 rfl⟩⟩

abbrev EnsuresOf (T : Terms View) (t : Action α) (v : View)
    (Q : Except ClientError α → View → Prop) : Prop := Ensures T t.run v Q

variable {P : Except ClientError α → View → Prop} {P' : Except ClientError β → View → Prop}

theorem EnsuresOf.pure (h : P (.ok a) v) : EnsuresOf T (Pure.pure a) v P := Ensures.done h

theorem EnsuresOf.throw (h : P (.error e) v) : EnsuresOf T (throw e : Action α) v P :=
  Ensures.done h

theorem EnsuresOf.bind {t : Action α} {f : α → Action β} {R : Except ClientError α → View → Prop}
    (h : EnsuresOf T t v R) (hf : ∀ a v, R (.ok a) v → EnsuresOf T (f a) v P')
    (he : ∀ e v, R (.error e) v → P' (.error e) v) : EnsuresOf T (t >>= f) v P' := by
  apply Ensures.bind (f := ExceptT.bindCont f) h
  intro r v hR
  cases r with
  | error e => exact .done (he e v hR)
  | ok a => exact hf a v hR

theorem Ensures.sure {t : ConsoleM α} (h : Ensures T t v fun a ↦ P (.ok a)) :
    EnsuresOf T (sure t) v P :=
  h.bind fun _ _ hP ↦ .done hP

theorem Ensures.sure_bind {t : ConsoleM α} {f : α → Action β} (h : Ensures T t v R)
    (hf : ∀ a v, R a v → EnsuresOf T (f a) v P') : EnsuresOf T (Console.sure t >>= f) v P' := by
  apply EnsuresOf.bind (R := fun r w ↦ ∃ a, r = .ok a ∧ R a w)
  · exact Ensures.sure (h.mono fun a v hR ↦ ⟨a, rfl, hR⟩)
  · intro b w hq
    obtain ⟨a, ha, hR⟩ := hq
    cases ha
    exact hf b w hR
  · intro e w hq
    obtain ⟨a, ha, -⟩ := hq
    cases ha

theorem Ensures.next {t : ConsoleM α} {f : α → ConsoleM β}
    (h : Ensures T t v fun b w ↦ b = a ∧ w = v') (hf : Ensures T (f a) v' Q') :
    Ensures T (t.bind f) v Q' := by
  apply h.bind
  intro _ _ hq
  obtain ⟨rfl, rfl⟩ := hq
  exact hf

theorem Ensures.sure_next {t : ConsoleM α} {f : α → Action β}
    (h : Ensures T t v fun b w ↦ b = a ∧ w = v') (hf : EnsuresOf T (f a) v' P') :
    EnsuresOf T (Console.sure t >>= f) v P' := by
  apply h.sure_bind
  intro _ _ hq
  obtain ⟨rfl, rfl⟩ := hq
  exact hf

theorem EnsuresOf.next {t : Action α} {f : α → Action β}
    (h : EnsuresOf T t v fun r w ↦ r = .ok a ∧ w = v') (hf : EnsuresOf T (f a) v' P') :
    EnsuresOf T (t >>= f) v P' := by
  apply h.bind
  · intro b _ hq
    obtain ⟨hb, rfl⟩ := hq
    cases hb
    exact hf
  · intro e _ hq
    obtain ⟨he, -⟩ := hq
    cases he

theorem EnsuresOf.stored {act : ProfileM α} {s : Sight} (h : Profile.Does act.run v.sight (.ok a) s)
    (hq : P (.ok a) ⟨s, v.context⟩) : EnsuresOf T (stored act) v P := by
  exact Ensures.sure_next (.onProfile h ⟨rfl, rfl⟩) (.pure hq)

end Console

end Backoffice
