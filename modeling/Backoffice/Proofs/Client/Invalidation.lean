import Backoffice.Proofs.Client.SingleFlight
import Backoffice.Proofs.Task.Telling

namespace Backoffice

open Web (Request Response Body Outcome)

namespace Console

variable {α β : Type} {log : List Exchange}

/-- The last exchange was the answer to a request, whichever token it was sent with. -/
def Answered (method url : String) (body : Body) (a : Response) (log : List Exchange) : Prop :=
  ∃ token r before, buildRequest method url token body = some r ∧ log = ⟨r, some a⟩ :: before

theorem sendOnce_recounts (method url : String) (token : Option String) (body : Body) :
    (sendOnce method url token body).run.Recounts
      (fun x log ↦ ∀ a, x = .ok a → Answered method url body a log) log := by
  intro s
  unfold sendOnce
  cases hr : buildRequest method url token body with
  | none =>
    intro a ha
    cases ha
  | some r =>
    refine Task.Tells.lift_bind (Q := fun o _ log' ↦ log' = ⟨r, o⟩ :: log) (fun _ _ _ ↦ rfl) ?_
    rintro o s _ rfl
    cases o with
    | none =>
      intro a ha
      cases ha
    | some answer =>
      rintro _ ⟨⟩
      exact ⟨token, r, log, hr, rfl⟩

theorem request_recounts (method url : String) (body : Body) :
    (request method url body).run.Recounts
      (fun x log ↦ ∀ a, x = .ok a → Answered method url body a log) log := by
  intro s
  have htoken : Leaves (fun _ ↦ ()) accessToken := accessToken_leaves
  refine Task.Tells.lift_bind (htoken.recounts s) fun token s log _ ↦ ?_
  refine Task.Tells.except_bind (sendOnce_recounts method url token body s)
    (fun first s log hfirst ↦ ?_) fun e s log _ a ha ↦ ?_
  · split
    · exact hfirst
    · have hfresh : Leaves (fun _ ↦ ()) (freshToken token).run := freshToken_leaves (fun _ _ ↦ rfl) token
      have hlock : Leaves (fun _ ↦ ()) (Task.acquire Gate.refresh) := acquire_leaves
      have hunlock : Leaves (fun _ ↦ ()) (Task.release Gate.refresh) := release_leaves
      refine Task.Tells.lift_bind (hlock.recounts s) fun _ s log _ ↦ ?_
      refine Task.Tells.lift_bind (hfresh.recounts s) fun fresh s log _ ↦ ?_
      refine Task.Tells.lift_bind (hunlock.recounts s) fun _ s log _ ↦ ?_
      cases fresh with
      | ok t => exact sendOnce_recounts method url (some t) body s
      | error e =>
        intro a ha
        cases ha
  · cases ha

theorem getEnvelope_recounts (dec : Decoder α) (url : String) :
    (getEnvelope dec url).run.Recounts (fun x log ↦ ∀ v, x = .ok v → ∃ a,
      Answered "GET" url .empty a log ∧ envelopeOf dec a = .ok v) log := by
  intro s
  refine Task.Tells.except_bind (request_recounts "GET" url .empty s) (fun a s log ha ↦ ?_) fun e s log _ v hv ↦ ?_
  · cases hd : envelopeOf dec a with
    | ok v =>
      rintro _ ⟨⟩
      exact ⟨a, ha a rfl, hd⟩
    | error e =>
      intro v hv
      cases hv
  · cases hv

theorem fetchVia_recounts (route : Routes → String) (dec : Decoder α)
    (judge : Envelope α → Except ClientError β) :
    (fetchVia route dec judge).run.Recounts (fun x log ↦ ∀ b, x = .ok b → ∃ routes a,
      Answered "GET" (route routes) .empty a log ∧ (envelopeOf dec a).bind judge = .ok b) log := by
  intro s
  have hroutes : Leaves (fun _ ↦ ()) (read Context.routes) := read_leaves _
  refine Task.Tells.lift_bind (hroutes.recounts s) fun routes s log _ ↦ ?_
  refine Task.Tells.except_bind (getEnvelope_recounts dec (route routes) s) (fun v s log hv ↦ ?_)
    fun e s log _ b hb ↦ ?_
  · obtain ⟨a, ha, hd⟩ := hv v rfl
    cases hj : judge v with
    | ok b =>
      rintro _ ⟨⟩
      exact ⟨routes, a, ha, by rw [hd]; exact hj⟩
    | error e =>
      intro b hb
      cases hb
  · cases hb

end Console

namespace ReferenceKind

open Console

def route : ReferenceKind → Routes → String
  | countries => Routes.countries
  | clients => Routes.activeClients
  | roles => Routes.roles

def itemsOf : (k : ReferenceKind) → Response → Except ClientError (List k.Item)
  | countries, a =>
    (envelopeOf (Decoder.list Country.decode) a).bind (itemsIfSuccess "Failed to fetch countries")
  | clients, a =>
    (envelopeOf (Decoder.list ClientOption.decode) a).bind (dataOr "Failed to fetch clients")
  | roles, a => (envelopeOf (Decoder.list Role.decode) a).bind (itemsIfSuccess "Failed to fetch roles")

/-- The last exchange was a request for the list, and its answer carries these items. -/
def Fetched (k : ReferenceKind) (items : List k.Item) (log : List Exchange) : Prop :=
  ∃ routes a, Answered "GET" (k.route routes) .empty a log ∧ k.itemsOf a = .ok items

theorem fetch_recounts (k : ReferenceKind) (log : List Exchange) :
    (ListSource.of k).fetch.run.Recounts (fun x log ↦ ∀ items, x = .ok items → k.Fetched items log) log := by
  cases k with
  | _ => exact fetchVia_recounts _ _ _

end ReferenceKind

abbrev Askers (α : Type) := Pool Unit Gate Console (Loaded α)

variable {α : Type}

/-- Any number of callers, in any order. While they wait, anybody may drop the list. -/
def ListSource.unguarded (s : ListSource α) : Setting Unit Gate Console (Loaded α) :=
  { s.callers with
    passes c c' := s.slot c'.context = s.slot c.context ∨
      s.slot c'.context = (s.slot c.context).invalidated }

def Pool.Begun {ι γ σ : Type} (p : Pool ι γ σ α) (n : Nat) : Prop :=
  ∃ m ∈ p.members[n]?, m.strand.begun = true

theorem Pool.Step.unguarded {s : ListSource α} {p q : Askers α} (h : Step s.callers p q) :
    Step s.unguarded p q := by
  cases h with
  | join job hj => exact .join job hj
  | turn t ha hg => exact .turn t ha hg
  | pass hp => exact .pass (.inl hp)

namespace Slot

variable {slot : Slot α} {seen : Nat} {x : Loaded α}

theorem loaded_of_shared? {items : List α} (h : slot.shared? seen = some (.ok items)) :
    slot.list.loaded = true ∧ slot.list.items = items := by
  unfold shared? at h
  split at h
  · next hl => exact ⟨hl, by simpa using h⟩
  · split at h
    · cases h
    · rw [Option.map_eq_some_iff] at h
      obtain ⟨e, -, he⟩ := h
      cases he

theorem shared?_of_loaded (h : slot.list.loaded = true) (seen : Nat) :
    slot.shared? seen = some (.ok slot.list.items) := if_pos h

theorem unloaded_of_shared? (h : slot.shared? seen = none) : slot.list.loaded = false := by
  rw [Bool.eq_false_iff]
  intro hl
  rw [shared?_of_loaded hl] at h
  cases h

end Slot

namespace Askers

variable {s : ListSource α} {tells : List α → List Exchange → Prop}

/-- How far a caller is. One that fetches under the lock will tell its items from its exchanges. -/
inductive Stands (s : ListSource α) (tells : List α → List Exchange → Prop) : Loader α → Prop
  | ready : Stands s tells ⟨(), [], .ready s.ensure.run⟩
  | waiting (seen : Nat) : Stands s tells ⟨(), [], .queued s.gate (s.resumed seen)⟩
  | fetching {log : List Exchange} {f : Strand Gate Console (Loaded α)}
      (hf : f.Spares (fun c ↦ s.slot c.context) (· = .refresh)) (hb : f.begun = true)
      (hr : f.result? = none) (hu : log ≠ [] ∨ f.underway ≠ [])
      (ht : f.Recounts (fun x log ↦ ∀ items, x = .ok items → tells items log) log)
      (sh : Share Gate Console) : Stands s tells ⟨(), log, (f.andThen s.landing sh).1⟩
  | ended (log : List Exchange) (x : Loaded α) : Stands s tells ⟨(), log, .ended x⟩

theorem inFlight_fetching {log : List Exchange} {f : Strand Gate Console (Loaded α)}
    (hb : f.begun = true) (hr : f.result? = none) (hu : log ≠ [] ∨ f.underway ≠ [])
    (sh : Share Gate Console) :
    Member.InFlight (⟨(), log, (f.andThen s.landing sh).1⟩ : Loader α) :=
  ⟨ListSource.record_andThen_ne hu sh, (Loaders.flying_begun hb hr).2⟩

def Aloft (s : ListSource α) (sh : Share Gate Console) (m : Loader α) : Prop :=
  m.InFlight ∨ m.result? = none ∧ s.gate ∉ sh.held

/-- What a turn of a caller comes to. One that begins to fetch may come to its outcome at once. -/
inductive Goes (s : ListSource α) (tells : List α → List Exchange → Prop) (sh : Share Gate Console) :
    Loader α → Loader α → Share Gate Console → Prop
  | served (hl : (s.slot sh.state.context).list.loaded = true) :
      Goes s tells sh ⟨(), [], .ready s.ensure.run⟩
        ⟨(), [], .ended (.ok (s.slot sh.state.context).list.items)⟩ sh
  | queues (hl : (s.slot sh.state.context).list.loaded = false) (seen : Nat) :
      Goes s tells sh ⟨(), [], .ready s.ensure.run⟩ ⟨(), [], .queued s.gate (s.resumed seen)⟩ sh
  | shares {seen : Nat} {x : Loaded α} (hx : (s.slot sh.state.context).shared? seen = some x) :
      Goes s tells sh ⟨(), [], .queued s.gate (s.resumed seen)⟩ ⟨(), [], .ended x⟩ sh
  | fetches {m m' : Loader α} {sh' : Share Gate Console} (hm : Aloft s sh m)
      (hl : (s.slot sh.state.context).list.loaded = false) (hs : Stands s tells m') (hf : m'.InFlight)
      (hl' : (s.slot sh'.state.context).list.loaded = false) (hh : s.gate ∈ sh'.held)
      (hn : sh.held.Nodup → sh'.held.Nodup) : Goes s tells sh m m' sh'
  | lands {m : Loader α} {log : List Exchange} {x : Loaded α} {sh' : Share Gate Console}
      (hm : Aloft s sh m) (hl : (s.slot sh.state.context).list.loaded = false)
      (ht : ∀ items, x = .ok items → tells items log)
      (hslot : ∃ slot : Slot α, slot.list.loaded = false ∧ s.slot sh'.state.context = slot.landed x)
      (hn : sh.held.Nodup → sh'.held.Nodup ∧ s.gate ∉ sh'.held) :
      Goes s tells sh m ⟨(), log, .ended x⟩ sh'

variable {sh sh' : Share Gate Console} {m m' : Loader α}

/-- A fetch goes on to its next wait, or comes to its outcome. -/
theorem fetch_goes (hs : s.Secluded) (hm : Aloft s sh m)
    (hl : (s.slot sh.state.context).list.loaded = false)
    {flight : Strand Gate Console (Loaded α) × Share Gate Console} {slot : Slot α}
    (hf : s.Flight slot sh.held flight) (hl' : slot.list.loaded = false) {log : List Exchange}
    (ht : flight.1.Recounts (fun x log ↦ ∀ items, x = .ok items → tells items log) log)
    (hu : flight.1.result? = none → log ≠ [] ∨ flight.1.underway ≠ []) :
    let next := flight.1.andThen s.landing flight.2
    Goes s tells sh m ⟨(), log, next.1⟩ next.2 := by
  intro next
  obtain ⟨f, sh'⟩ := flight
  have hslot : (s.slot sh'.state.context).list.loaded = false := by rw [hf.slot, hl']
  cases hr : f.result? with
  | none =>
    have hnext : next.2 = sh' := Strand.share_andThen hf.spares hr s.landing sh'
    rw [hnext]
    exact .fetches hm hl (.fetching hf.spares hf.begun hr (hu hr) ht sh')
      (inFlight_fetching hf.begun hr (hu hr) sh') hslot hf.lock hf.nodup
  | some x =>
    cases f with
    | ended y =>
      refine .lands hm hl ht ⟨s.slot sh'.state.context, hslot, hs.slot_put _ _⟩ fun hd ↦ ?_
      exact ⟨(hf.nodup hd).erase s.gate, (hf.nodup hd).not_mem_erase⟩
    | _ => cases hr

theorem goes_of_go (hs : s.Secluded)
    (ht : s.fetch.run.Recounts (fun x log ↦ ∀ items, x = .ok items → tells items log) [])
    (hm : Stands s tells m)
    (hf : m.InFlight → s.gate ∈ sh.held ∧ (s.slot sh.state.context).list.loaded = false) {t : Turn}
    (hg : m.go t sh = some (m', sh')) : Goes s tells sh m m' sh' := by
  simp only [Member.go, Option.map_eq_some_iff, Prod.mk.injEq] at hg
  obtain ⟨⟨st, sh₁⟩, hg, rfl, rfl⟩ := hg
  cases hm with
  | ready =>
    cases t with
    | start =>
      replace hg : some (s.ensure.run.park sh) = some (st, sh₁) := hg
      rw [s.ensure_park] at hg
      split at hg
      · next hl =>
        cases hg
        exact .served hl
      · next hl =>
        cases hg
        exact .queues (Bool.eq_false_iff.mpr hl) _
    | _ => cases hg
  | waiting seen =>
    cases t with
    | grant =>
      by_cases hfree : s.gate ∈ sh.held
      · rw [Strand.go_grant, if_pos hfree] at hg
        cases hg
      · cases hx : (s.slot sh.state.context).shared? seen with
        | some x =>
          rw [Loaders.go_grant_of_shared hfree hx] at hg
          cases hg
          exact .shares hx
        | none =>
          -- The fetch runs to its first wait under the lock. It may fail before that.
          rw [Loaders.go_grant_of_unshared hfree hx] at hg
          have hl := Slot.unloaded_of_shared? hx
          obtain ⟨hflight, hsent⟩ := hs.flight_takeoff hfree
          have he := Option.some.inj hg
          obtain rfl := congrArg Prod.fst he
          obtain rfl := congrArg Prod.snd he
          exact fetch_goes hs (.inr ⟨rfl, hfree⟩) hl hflight hl (ht.park _) fun hr ↦ .inr (hsent hr)
    | _ => cases hg
  | @fetching log f hfs hb hr hu hrec sh₀ =>
    have hfly := inFlight_fetching (s := s) hb hr hu sh₀
    obtain ⟨hheld, hl⟩ := hf hfly
    have hsent := Loaders.log_ne_nil hfs hb hr hu hg
    rw [Strand.go_andThen hfs hr, Option.map_eq_some_iff] at hg
    obtain ⟨⟨f', sh₂⟩, hg, he⟩ := hg
    have hflight := ListSource.flight_of_go hfs hheld hg
    have hrec' := hrec.go hg
    rw [← Strand.exchange?_andThen hr s.landing sh₀] at hrec'
    obtain rfl := congrArg Prod.fst he
    obtain rfl := congrArg Prod.snd he
    exact fetch_goes hs (.inl hfly) hl hflight hl hrec' fun _ ↦ .inl hsent
  | ended => cases t <;> cases hg

namespace Goes

variable (h : Goes s tells sh m m' sh')
include h

theorem unresolved : m.result? = none := by
  cases h with
  | fetches hm | lands hm => exact hm.elim And.right And.left
  | _ => rfl

theorem stands : Stands s tells m' := by
  cases h with
  | served | shares | lands => exact .ended _ _
  | queues _ seen => exact .waiting seen
  | fetches _ _ hs => exact hs

theorem of_loaded (hl : (s.slot sh'.state.context).list.loaded = true) :
    s.slot sh'.state.context = s.slot sh.state.context ∨
      m'.result? = some (.ok (s.slot sh'.state.context).list.items) ∧
        tells (s.slot sh'.state.context).list.items m'.log := by
  cases h with
  | served | queues | shares => exact .inl rfl
  | fetches _ _ _ _ hl' => cases hl'.symm.trans hl
  | @lands m log x sh' _ _ ht hslot _ =>
    obtain ⟨slot, hl', hs⟩ := hslot
    rw [hs] at hl ⊢
    cases x with
    | ok items => exact .inr ⟨rfl, ht items rfl⟩
    | error e => cases hl'.symm.trans hl

/-- Whoever gets items in a turn finds them in the list, or puts them there. -/
theorem loaded {items : List α} (hr : m'.result? = some (.ok items)) :
    (s.slot sh'.state.context).list.loaded = true ∧ (s.slot sh'.state.context).list.items = items := by
  cases h with
  | served hl => exact ⟨hl, Except.ok.inj (Option.some.inj hr)⟩
  | queues => cases hr
  | shares hx =>
    cases hr
    exact Slot.loaded_of_shared? hx
  | fetches _ _ _ hf => cases hf.2.symm.trans hr
  | lands _ _ _ hslot =>
    obtain ⟨slot, -, hs⟩ := hslot
    cases hr
    rw [hs]
    exact ⟨rfl, rfl⟩

theorem of_served (hl : (s.slot sh.state.context).list.loaded = true) :
    sh' = sh ∧ (m.strand.begun = false →
      m'.result? = some (.ok (s.slot sh.state.context).list.items) ∧ m'.record = ⟨[], []⟩) := by
  cases h with
  | served => exact ⟨rfl, fun _ ↦ ⟨rfl, rfl⟩⟩
  | queues hl' | fetches _ hl' | lands _ hl' => cases hl'.symm.trans hl
  | shares =>
    refine ⟨rfl, fun hb ↦ ?_⟩
    cases hb

end Goes

variable {p q : Askers α} {n : Nat}

structure Guarded (s : ListSource α) (tells : List α → List Exchange → Prop) (p : Askers α) : Prop where
  stands : ∀ (i : Nat) (m : Loader α), p.members[i]? = some m → Stands s tells m
  nodup : p.share.held.Nodup
  held : s.gate ∈ p.share.held ↔ ∃ i, p.InFlight i
  single : ∀ i j, p.InFlight i → p.InFlight j → i = j
  unloaded : ∀ i, p.InFlight i → (s.slot p.share.state.context).list.loaded = false

namespace Guarded

theorem empty (s : ListSource α) (tells : List α → List Exchange → Prop) (c : Console) :
    Guarded s tells (.empty c) := by
  have hnone : ∀ i, ¬(Pool.empty c : Askers α).InFlight i := fun i hi ↦ hi.1 rfl
  refine ⟨fun i m hm ↦ ?_, List.nodup_nil, iff_of_false List.not_mem_nil (not_exists.mpr hnone),
    fun i _ hi ↦ (hnone i hi).elim, fun i hi ↦ (hnone i hi).elim⟩
  cases hm

variable (h : Guarded s tells p)
include h

theorem join {job : Unit} :
    Guarded s tells { p with members := p.members ++ [⟨job, [], .ready s.ensure.run⟩] } := by
  have hfly : ∀ i, Pool.InFlight { p with members := p.members ++ [⟨job, [], .ready s.ensure.run⟩] } i ↔
      p.InFlight i := fun i ↦ by rw [Pool.InFlight, Pool.result?_join, Pool.record_join, Pool.InFlight]
  refine ⟨fun i m hm ↦ ?_, h.nodup, h.held.trans (exists_congr fun i ↦ (hfly i).symm),
    fun i j hi hj ↦ h.single i j ((hfly i).mp hi) ((hfly j).mp hj), fun i hi ↦ h.unloaded i ((hfly i).mp hi)⟩
  rw [List.getElem?_append] at hm
  split at hm
  · exact h.stands i m hm
  · rw [List.getElem?_singleton] at hm
    split at hm
    · cases hm
      exact .ready
    · cases hm

theorem pass {c : Console} (hc : s.slot c.context = s.slot p.share.state.context ∨
    s.slot c.context = (s.slot p.share.state.context).invalidated) :
    Guarded s tells { p with share := { p.share with state := c } } := by
  refine ⟨h.stands, h.nodup, h.held, h.single, fun i hi ↦ ?_⟩
  change (s.slot c.context).list.loaded = false
  rcases hc with hc | hc
  · exact hc ▸ h.unloaded i hi
  · rw [hc]
    rfl

theorem stands_turned (hm : p.members[n]? = some m) (hs : Stands s tells m') (i : Nat) (w : Loader α)
    (hw : (p.turned n m' sh').members[i]? = some w) : Stands s tells w := by
  rw [Pool.getElem?_turned hm] at hw
  split at hw
  · exact Option.some.inj hw ▸ hs
  · exact h.stands i w hw

theorem of_aloft (hm : p.members[n]? = some m) (ha : Aloft s p.share m) {i : Nat} (hi : p.InFlight i) :
    i = n := by
  rcases ha with ha | ⟨-, ha⟩
  · exact h.single i n hi ((Pool.inFlight_iff hm).mpr ha)
  · exact (ha (h.held.mpr ⟨i, hi⟩)).elim

theorem rest (hm : p.members[n]? = some m) (hs : Stands s tells m') (hf : ¬m.InFlight)
    (hf' : ¬m'.InFlight) : Guarded s tells (p.turned n m' p.share) := by
  have hfly : ∀ i, (p.turned n m' p.share).InFlight i ↔ p.InFlight i := by
    intro i
    rw [Pool.inFlight_turned hm]
    split
    · next hi => exact iff_of_false hf' (hi ▸ mt (Pool.inFlight_iff hm).mp hf)
    · rfl
  exact ⟨h.stands_turned hm hs, h.nodup, h.held.trans (exists_congr fun i ↦ (hfly i).symm),
    fun i j hi hj ↦ h.single i j ((hfly i).mp hi) ((hfly j).mp hj),
    fun i hi ↦ h.unloaded i ((hfly i).mp hi)⟩

theorem turn (hm : p.members[n]? = some m) (hg : Goes s tells p.share m m' sh') :
    Guarded s tells (p.turned n m' sh') := by
  have hs := hg.stands
  have hfly : ∀ i, (p.turned n m' sh').InFlight i ↔ _ := Pool.inFlight_turned hm sh'
  cases hg with
  | served | queues | shares => exact h.rest hm hs (fun hf ↦ hf.1 rfl) fun hf ↦ hf.1 rfl
  | fetches ha _ _ hf hl hh hn =>
    have honly : ∀ i, (p.turned n m' sh').InFlight i → i = n := by
      intro i hi
      by_contra hne
      rw [hfly, if_neg hne] at hi
      exact hne (h.of_aloft hm ha hi)
    exact ⟨h.stands_turned hm hs, hn h.nodup, iff_of_true hh ⟨n, (hfly n).mpr (by rwa [if_pos rfl])⟩,
      fun i j hi hj ↦ (honly i hi).trans (honly j hj).symm, fun _ _ ↦ hl⟩
  | @lands m log x sh' ha _ _ _ hn =>
    have hnone : ∀ i, ¬(p.turned n ⟨(), log, .ended x⟩ sh').InFlight i := by
      intro i hi
      rw [hfly] at hi
      split at hi
      · cases hi.2
      · next hne => exact hne (h.of_aloft hm ha hi)
    obtain ⟨hnodup, hfree⟩ := hn h.nodup
    exact ⟨h.stands_turned hm hs, hnodup, iff_of_false hfree (not_exists.mpr hnone),
      fun i _ hi ↦ (hnone i hi).elim, fun i hi ↦ (hnone i hi).elim⟩

variable (hs : s.Secluded)
  (hf : s.fetch.run.Recounts (fun x log ↦ ∀ items, x = .ok items → tells items log) [])
include hs hf

theorem goes (hm : p.members[n]? = some m) {t : Turn} (hg : m.go t p.share = some (m', sh')) :
    Goes s tells p.share m m' sh' := by
  refine goes_of_go hs hf (h.stands n m hm) (fun hm' ↦ ?_) hg
  have hn := (Pool.inFlight_iff hm).mpr hm'
  exact ⟨h.held.mpr ⟨n, hn⟩, h.unloaded n hn⟩

theorem step (hst : Pool.Step s.unguarded p q) : Guarded s tells q := by
  rcases hst.elim with ⟨job, rfl⟩ | ⟨n, m, m', sh', t, hm, hg, rfl⟩ | ⟨c, hc, rfl⟩
  · exact h.join
  · exact h.turn hm (h.goes hs hf hm hg)
  · exact h.pass hc

theorem later (hl : Pool.Later s.unguarded p q) : Guarded s tells q := by
  induction hl with
  | refl => exact h
  | tail _ hst ih => exact ih.step hs hf hst

end Guarded

variable {old : Nat → Prop} {items : List α}

def Brought (tells : List α → List Exchange → Prop) (old : Nat → Prop) (p : Askers α) (items : List α) :
    Prop :=
  ∃ j, ¬old j ∧ p.result? j = some (.ok items) ∧ tells items (p.record j).log

theorem Brought.turned (h : Brought tells old p items) (hm : p.members[n]? = some m)
    (hr : m.result? = none) : Brought tells old (p.turned n m' sh') items := by
  obtain ⟨j, hj, hx, hs⟩ := h
  have hne : j ≠ n := by
    rintro rfl
    rw [Pool.result?, hm, Option.bind_some, hr] at hx
    cases hx
  refine ⟨j, hj, ?_, ?_⟩
  · rw [Pool.result?_turned hm, if_neg hne]
    exact hx
  · rw [Pool.record_turned hm, if_neg hne]
    exact hs

structure Afresh (s : ListSource α) (tells : List α → List Exchange → Prop) (old : Nat → Prop)
    (p : Askers α) : Prop where
  loaded : (s.slot p.share.state.context).list.loaded = true →
    Brought tells old p (s.slot p.share.state.context).list.items
  told : ∀ i items, ¬old i → p.result? i = some (.ok items) → Brought tells old p items
  past : ∀ i, old i → p.result? i ≠ none

namespace Afresh

theorem start (hl : (s.slot p.share.state.context).list.loaded = false) :
    Afresh s tells (fun i ↦ p.result? i ≠ none) p where
  loaded hl' := by cases hl.symm.trans hl'
  told i items hi hr := by rw [not_not.mp hi] at hr; cases hr
  past _ := id

variable (h : Afresh s tells old p)
include h

theorem join {job : Unit} :
    Afresh s tells old { p with members := p.members ++ [⟨job, [], .ready s.ensure.run⟩] } := by
  have hbrought : ∀ items, Brought tells old p items →
      Brought tells old { p with members := p.members ++ [⟨job, [], .ready s.ensure.run⟩] } items := by
    rintro items ⟨j, hj, hr, hs⟩
    exact ⟨j, hj, (Pool.result?_join j).trans hr, (Pool.record_join j).symm ▸ hs⟩
  refine ⟨fun hl ↦ hbrought _ (h.loaded hl), fun i items hi hr ↦ ?_, fun i hi ↦ ?_⟩
  · exact hbrought _ (h.told i items hi ((Pool.result?_join i).symm.trans hr))
  · rw [Pool.result?_join]
    exact h.past i hi

theorem pass {c : Console} (hc : s.slot c.context = s.slot p.share.state.context ∨
    s.slot c.context = (s.slot p.share.state.context).invalidated) :
    Afresh s tells old { p with share := { p.share with state := c } } := by
  refine ⟨?_, h.told, h.past⟩
  change (s.slot c.context).list.loaded = true → Brought tells old p (s.slot c.context).list.items
  rcases hc with hc | hc
  · rw [hc]
    exact h.loaded
  · rw [hc]
    intro hl
    cases hl

theorem turn (hm : p.members[n]? = some m) (hg : Goes s tells p.share m m' sh') :
    Afresh s tells old (p.turned n m' sh') := by
  have hr := hg.unresolved
  have hself : p.result? n = none := by
    rw [Pool.result?, hm]
    exact hr
  have hloaded : (s.slot sh'.state.context).list.loaded = true →
      Brought tells old (p.turned n m' sh') (s.slot sh'.state.context).list.items := by
    intro hl
    rcases hg.of_loaded hl with he | ⟨hx, ht⟩
    · rw [he] at hl ⊢
      exact (h.loaded hl).turned hm hr
    · refine ⟨n, fun hn ↦ h.past n hn hself, ?_, ?_⟩
      · rw [Pool.result?_turned hm, if_pos rfl]
        exact hx
      · rw [Pool.record_turned hm, if_pos rfl]
        exact ht
  refine ⟨hloaded, fun i items hi hx ↦ ?_, fun i hi ↦ ?_⟩
  · rw [Pool.result?_turned hm] at hx
    split at hx
    · obtain ⟨hl, rfl⟩ := hg.loaded hx
      exact hloaded hl
    · exact (h.told i items hi hx).turned hm hr
  · rw [Pool.result?_turned hm]
    split
    · next hn => exact (h.past i hi (hn ▸ hself)).elim
    · exact h.past i hi

theorem later (hs : s.Secluded)
    (hf : s.fetch.run.Recounts (fun x log ↦ ∀ items, x = .ok items → tells items log) [])
    (hp : Guarded s tells p) (hl : Pool.Later s.unguarded p q) : Afresh s tells old q := by
  induction hl with
  | refl => exact h
  | tail hl hst ih =>
    have hb := hp.later hs hf hl
    rcases hst.elim with ⟨job, rfl⟩ | ⟨n, m, m', sh', t, hm, hg, rfl⟩ | ⟨c, hc, rfl⟩
    · exact ih.join
    · exact ih.turn hm (hb.goes hs hf hm hg)
    · exact ih.pass hc

end Afresh

structure Served (s : ListSource α) (items : List α) (before p : Askers α) : Prop where
  loaded : (s.slot p.share.state.context).list.loaded = true
  slot_items : (s.slot p.share.state.context).list.items = items
  begun : ∀ i, ¬before.Begun i → p.Begun i → p.result? i = some (.ok items) ∧ p.record i = ⟨[], []⟩

namespace Served

/-- In the step in which a caller gets items, the list comes to hold them. -/
theorem of_step (hs : s.Secluded)
    (hf : s.fetch.run.Recounts (fun x log ↦ ∀ items, x = .ok items → tells items log) [])
    (hp : Guarded s tells p) (hst : Pool.Step s.callers p q) (hn : p.result? n = none)
    (hx : q.result? n = some (.ok items)) : Served s items q q := by
  rcases hst.elim with ⟨job, rfl⟩ | ⟨k, m, m', sh', t, hm, hg, rfl⟩ | ⟨c, hc, rfl⟩
  · rw [Pool.result?_join, hn] at hx
    cases hx
  · rw [Pool.result?_turned hm] at hx
    split at hx
    · obtain ⟨hl, hi⟩ := (hp.goes hs hf hm hg).loaded hx
      exact ⟨hl, hi, fun i hi hb ↦ (hi hb).elim⟩
    · rw [hn] at hx
      cases hx
  · cases hn.symm.trans hx

variable {before : Askers α} (h : Served s items before p)
include h

theorem step (hs : s.Secluded)
    (hf : s.fetch.run.Recounts (fun x log ↦ ∀ items, x = .ok items → tells items log) [])
    (hp : Guarded s tells p) (hst : Pool.Step s.callers p q) : Served s items before q := by
  rcases hst.elim with ⟨job, rfl⟩ | ⟨n, m, m', sh', t, hm, hg, rfl⟩ | ⟨c, hc, rfl⟩
  · refine ⟨h.loaded, h.slot_items, fun i hi hb ↦ ?_⟩
    rw [Pool.result?_join, Pool.record_join]
    refine h.begun i hi ?_
    obtain ⟨w, hw, hb⟩ := hb
    rw [List.getElem?_append, Option.mem_def] at hw
    split at hw
    · exact ⟨w, hw, hb⟩
    · rw [List.getElem?_singleton] at hw
      split at hw
      · cases hw
        cases hb
      · cases hw
  · have hgoes := hp.goes hs hf hm hg
    obtain ⟨rfl, hfirst⟩ := hgoes.of_served h.loaded
    refine ⟨h.loaded, h.slot_items, fun i hi hb ↦ ?_⟩
    rw [Pool.result?_turned hm, Pool.record_turned hm]
    obtain ⟨w, hw, hb⟩ := hb
    rw [Option.mem_def, Pool.getElem?_turned hm] at hw
    split
    · next hn =>
      subst hn
      rw [← h.slot_items]
      refine hfirst (Bool.eq_false_iff.mpr fun hb' ↦ ?_)
      have hr := (h.begun i hi ⟨m, hm, hb'⟩).1
      rw [Pool.result?, hm, Option.bind_some, hgoes.unresolved] at hr
      cases hr
    · next hn =>
      rw [if_neg hn] at hw
      exact h.begun i hi ⟨w, hw, hb⟩
  · have hc : s.slot c.context = s.slot p.share.state.context := hc
    exact ⟨hc ▸ h.loaded, hc ▸ h.slot_items, h.begun⟩

theorem later (hs : s.Secluded)
    (hf : s.fetch.run.Recounts (fun x log ↦ ∀ items, x = .ok items → tells items log) [])
    (hp : Guarded s tells p) (hl : Pool.Later s.callers p q) : Served s items before q := by
  have hu : Guarded s tells q ∧ Served s items before q := by
    induction hl with
    | refl => exact ⟨hp, h⟩
    | tail _ hst ih => exact ⟨ih.1.step hs hf hst.unguarded, ih.2.step hs hf ih.1 hst⟩
  exact hu.2

end Served

variable {k : ReferenceKind}

/-- A list is dropped: `invalidate` is called while all wait, and is over at once. -/
structure Drops (k : ReferenceKind) (p q : Askers k.Item) : Prop where
  members : q.members = p.members
  park : (Console.invalidate k).park p.share = (.ended (), q.share)

theorem invalidate_park (k : ReferenceKind) (sh : Share Gate Console) :
    (Console.invalidate k).park sh =
      (.ended (), { sh with state := (ListSource.of k).change Slot.invalidated sh.state }) := by
  cases k with
  | _ => rfl

def dropped (k : ReferenceKind) (p : Askers k.Item) : Askers k.Item :=
  { p with share := ((Console.invalidate k).park p.share).2 }

theorem drops_dropped (k : ReferenceKind) (p : Askers k.Item) : Drops k p (dropped k p) :=
  ⟨rfl, by rw [dropped, invalidate_park]⟩

namespace Drops

theorem step {p q : Askers k.Item} (h : Drops k p q) : Pool.Step (ListSource.of k).unguarded p q := by
  have hq := h.park
  rw [invalidate_park, Prod.mk.injEq] at hq
  obtain ⟨share, members⟩ := q
  obtain rfl := hq.2
  obtain rfl := h.members
  exact .pass (.inr ((ListSource.secluded_of k).slot_put _ _))

theorem unloaded {p q : Askers k.Item} (h : Drops k p q) :
    ((ListSource.of k).slot q.share.state.context).list.loaded = false := by
  have hq := h.park
  rw [invalidate_park, Prod.mk.injEq] at hq
  rw [← hq.2]
  exact congrArg (fun f ↦ f.list.loaded) ((ListSource.secluded_of k).slot_put _ _)

end Drops

/-- Callers of a reference list, in any number and in any order, and invalidations at any time. At most one
load is under way when the list is dropped. Whoever has no result then, and later gets items, gets them from
the answer to a request of that load, or of one that had sent nothing yet; so where no load was under way,
the invalidation is not lost. But when a caller gets items after it, be it by the load that was under way,
then until the list is dropped again all who begin get the same, without a request. -/
theorem after_invalidation (k : ReferenceKind) (c : Console) {p q : Askers k.Item}
    (hp : Pool.Later (ListSource.of k).unguarded (.empty c) p) (hq : Drops k p q) :
    let s := ListSource.of k
    (∀ i j, q.InFlight i → q.InFlight j → i = j) ∧
    ∀ r, Pool.Later s.unguarded q r →
      (∀ i items, q.result? i = none → r.result? i = some (.ok items) →
        ∃ j, r.result? j = some (.ok items) ∧ k.Fetched items (r.record j).log ∧
          (q.InFlight j ∨ q.record j = ⟨[], []⟩)) ∧
      ∀ r' n items, Pool.Step s.callers r r' → r.result? n = none → r'.result? n = some (.ok items) →
        ∀ u, Pool.Later s.callers r' u → ∀ i, ¬r'.Begun i → u.Begun i →
          u.result? i = some (.ok items) ∧ u.record i = ⟨[], []⟩ := by
  intro s
  have hs : s.Secluded := ListSource.secluded_of k
  have hf := k.fetch_recounts []
  have hgp := (Guarded.empty s k.Fetched c).later hs hf hp
  have hgq := hgp.step hs hf hq.step
  refine ⟨hgq.single, fun r hr ↦ ⟨fun i items hi hx ↦ ?_, fun r' n items hst hn hx u hu i hi hb ↦ ?_⟩⟩
  · have hafresh := (Afresh.start hq.unloaded).later hs hf hgq hr
    obtain ⟨j, hj, hx, ht⟩ := hafresh.told i items (not_not.mpr hi) hx
    refine ⟨j, hx, ht, ?_⟩
    by_cases he : q.record j = ⟨[], []⟩
    · exact .inr he
    · exact .inl ⟨he, not_not.mp hj⟩
  · have hgr := hgq.later hs hf hr
    have hserved := Served.of_step hs hf hgr hst hn hx
    exact (hserved.later hs hf (hgr.step hs hf hst.unguarded) hu).begun i hi hb

instance (s : ListSource α) : DecidablePred s.unguarded.admits := fun _ ↦ inferInstanceAs (Decidable True)

instance (s : ListSource α) (rs : List Record) (r : Record) : DecidablePred (s.unguarded.allows rs r) :=
  fun _ ↦ inferInstanceAs (Decidable True)

instance (p : Askers α) (i : Nat) : Decidable (p.Begun i) :=
  inferInstanceAs (Decidable (∃ m ∈ p.members[i]?, m.strand.begun = true))

/-- The countries are asked for and dropped, and the answer comes. Whoever asks next gets what was on its way
when they were dropped, and no request is made. -/
theorem after_invalidation_of_late_answer :
    let host : Host := ⟨.empty .memory, ⟨0⟩, fun _ ↦ ⟨List.replicate 32 0, rfl⟩, 0⟩
    let c : Console := ⟨.blank host, .fresh (.ofBase "http://h") "host"⟩
    let s : ListSource Country := .of .countries
    let india : Country := ⟨⟨"in"⟩, "India", "91", none, ""⟩
    ∃ p q r u : Askers Country, Pool.Later s.unguarded (.empty c) p ∧ Drops .countries p q ∧ ¬q.Begun 1 ∧
      Pool.Step s.callers q r ∧ (q.record 0).underway.length = 1 ∧ (r.record 0).log.length = 1 ∧
      r.result? 0 = some (.ok [india]) ∧
      Pool.Later s.callers r u ∧ u.result? 1 = some (.ok [india]) ∧ u.record 1 = ⟨[], []⟩ := by
  intro host c s india
  let answer := "\x7b\"success\":true,\"message\":\"\",\"data\":[\x7b\"_id\":\"in\",\"name\":\"India\"," ++
    "\"isdCode\":\"91\"\x7d]\x7d"
  have hplay : ∃ p : Askers Country, Pool.Later s.unguarded (.empty c) p ∧
      ((dropped .countries p).record 0).underway.length = 1 ∧ (dropped .countries p).result? 0 = none ∧
      ¬(dropped .countries p).Begun 1 ∧
      ∃ r ∈ (dropped .countries p).after s.callers (.turn 0 (.receive 200 answer)),
        (r.record 0).log.length = 1 ∧ r.result? 0 = some (.ok [india]) ∧ ¬r.Begun 1 ∧
        ∃ u ∈ r.play s.callers [.join (), .turn 1 .start], u.Begun 1 :=
    Pool.exists_later_of_play [.join (), .turn 0 .start, .turn 0 .grant] (by decide +kernel)
  obtain ⟨p, hp, hunder, hnone, hfirst, r, hr, hlog, hgot, hnext, u, hu, hbegun⟩ := hplay
  have hdrops := drops_dropped .countries p
  have hstep := Pool.step_of_after hr
  have hlater := Pool.later_of_play hu
  have hserved := ((after_invalidation .countries c hp hdrops).2 _ .refl).2 r 0 [india] hstep hnone hgot
  obtain ⟨hresult, hrecord⟩ := hserved u hlater 1 hnext hbegun
  exact ⟨p, _, r, u, hp, hdrops, hfirst, hstep, hunder, hlog, hgot, hlater, hresult, hrecord⟩

end Askers

end Backoffice
