import Backoffice.Proofs.Client.Airfield
import Backoffice.Proofs.Client.Frame
import Backoffice.Proofs.Task.Queueing

namespace Backoffice

open Console

abbrev Loaders (α : Type) := Lineup Unit Gate Console (Loaded α)

abbrev Loader (α : Type) := Member Unit Gate Console (Loaded α)

namespace ListSource

variable {α : Type} (s : ListSource α)

def callers : Setting Unit Gate Console (Loaded α) where
  task _ := s.ensure.run
  admits _ := True
  allows _ _ _ := True
  passes c c' := s.slot c'.context = s.slot c.context

structure Secluded : Prop where
  slot_put : ∀ f x, s.slot (s.put f x) = f
  fetch : Leaves s.slot s.fetch.run
  first : SendsFirst s.fetch

def gate : Gate := .list s.kind

theorem gate_ne : s.gate ≠ .refresh := Gate.noConfusion

def change (f : Slot α → Slot α) (c : Console) : Console :=
  { c with context := s.put (f (s.slot c.context)) c.context }

def landing (x : Loaded α) : ConsoleM (Loaded α) :=
  .update (s.change (Slot.landed x)) (.unlock s.gate (.done x))

/-- What is left of a caller that waits for the lock, and came when `seen` loads had ended. -/
def resumed (seen : Nat) : ConsoleM (Loaded α) :=
  (ensure.sharedOrLoaded s seen).run.bind fun x ↦ .unlock s.gate (.done x)

theorem load_run :
    s.load.run = .update (s.change Slot.loading)
      (s.fetch.run.bind fun x ↦ .update (s.change (Slot.landed x)) (.done x)) := by
  refine congrArg (Task.update (s.change Slot.loading)) ?_
  refine (Task.bind_assoc s.fetch.run _ _).trans (congrArg s.fetch.run.bind (funext fun x ↦ ?_))
  cases x <;> rfl

theorem ensure_run :
    s.ensure.run = .look fun c ↦
      if (s.slot c.context).list.loaded then .done (.ok (s.slot c.context).list.items)
      else .lock s.gate (s.resumed (s.slot c.context).attempts) := by
  refine congrArg Task.look (funext fun c ↦ ?_)
  change (if (s.slot c.context).list.loaded = true then _ else _ : Action (List α)).run = _
  by_cases hl : (s.slot c.context).list.loaded = true
  · rw [if_pos hl, if_pos hl]
    rfl
  · rw [if_neg hl, if_neg hl]
    refine congrArg (Task.lock s.gate) ?_
    refine (Task.bind_assoc (ensure.sharedOrLoaded s _).run _ _).trans ?_
    refine congrArg (ensure.sharedOrLoaded s _).run.bind (funext fun x ↦ ?_)
    cases x <;> rfl

theorem resumed_eq (seen : Nat) :
    s.resumed seen = .look fun c ↦ ((s.slot c.context).shared? seen).elim
      (.update (s.change Slot.loading) (s.fetch.run.bind s.landing)) fun x ↦ .unlock s.gate (.done x) := by
  refine congrArg Task.look (funext fun c ↦ ?_)
  have hload : (s.load.run.bind fun x ↦ .unlock s.gate (.done x)) =
      .update (s.change Slot.loading) (s.fetch.run.bind s.landing) := by
    rw [load_run]
    exact congrArg (Task.update _) (Task.bind_assoc s.fetch.run _ _)
  simp only [Task.done_bind, Function.comp, ExceptT.bindCont]
  cases (s.slot c.context).shared? seen with
  | none => exact hload
  | some x => cases x <;> rfl

def takeoff (sh : Share Gate Console) : Strand Gate Console (Loaded α) × Share Gate Console :=
  s.fetch.run.park { sh with state := s.change Slot.loading sh.state }

/-- A fetch under the lock, up to a wait or to its outcome, in a turn that began with the locks `held`. -/
structure Flight (slot : Slot α) (held : List Gate)
    (flight : Strand Gate Console (Loaded α) × Share Gate Console) : Prop where
  spares : flight.1.Spares (fun c ↦ s.slot c.context) (· = .refresh)
  begun : flight.1.begun = true
  slot : s.slot flight.2.state.context = slot
  lock : s.gate ∈ flight.2.held
  nodup : held.Nodup → flight.2.held.Nodup

theorem resumed_park (seen : Nat) (sh : Share Gate Console) :
    (s.resumed seen).park sh = ((s.slot sh.state.context).shared? seen).elim
      ((s.takeoff sh).1.andThen s.landing (s.takeoff sh).2)
      fun x ↦ (.ended x, { sh with held := sh.held.erase s.gate }) := by
  rw [resumed_eq, Task.park]
  cases (s.slot sh.state.context).shared? seen with
  | none => exact Task.park_bind s.fetch.run s.landing _
  | some x => rfl

theorem ensure_park (sh : Share Gate Console) :
    s.ensure.run.park sh =
      if (s.slot sh.state.context).list.loaded then (.ended (.ok (s.slot sh.state.context).list.items), sh)
      else (.queued s.gate (s.resumed (s.slot sh.state.context).attempts), sh) := by
  rw [ensure_run, Task.park]
  split <;> rfl

variable {s} {sh : Share Gate Console}

theorem Secluded.flight_takeoff (hs : s.Secluded) (hfree : s.gate ∉ sh.held) :
    let flight := s.takeoff { sh with held := s.gate :: sh.held }
    s.Flight (s.slot sh.state.context).loading sh.held flight ∧
      (flight.1.result? = none → flight.1.underway ≠ []) := by
  intro flight
  let taken : Share Gate Console := ⟨s.change Slot.loading sh.state, s.gate :: sh.held⟩
  obtain ⟨hspares, hspared⟩ := (hs.fetch.sparesFrom taken.state).park (s := taken)
  refine ⟨⟨hspares, s.fetch.run.park_begun taken, ?_, ?_, fun hn ↦ ?_⟩, fun hr ↦ ?_⟩
  · exact hspared.state.trans (hs.slot_put _ _)
  · exact (hspared.held s.gate s.gate_ne).mpr List.mem_cons_self
  · exact hspared.nodup (List.nodup_cons.mpr ⟨hfree, hn⟩)
  · -- A fetch that waits sends a request first; one that cannot send any has its outcome already.
    rcases hs.first.park taken with hu | ⟨x, -, hx⟩
    · exact hu
    · change (s.fetch.run.park taken).1.result? = none at hr
      rw [hx] at hr
      cases hr

theorem flight_of_go {f : Strand Gate Console (Loaded α)}
    (hf : f.Spares (fun c ↦ s.slot c.context) (· = .refresh)) (hl : s.gate ∈ sh.held) {t : Turn}
    {flight : Strand Gate Console (Loaded α) × Share Gate Console} (hg : f.go t sh = some flight) :
    s.Flight (s.slot sh.state.context) sh.held flight :=
  have ⟨hspares, hbegun, hspared⟩ := Strand.spares_of_go hf hg
  ⟨hspares, hbegun, hspared.state, (hspared.held s.gate s.gate_ne).mpr hl, hspared.nodup⟩

theorem record_andThen_ne {f : Strand Gate Console (Loaded α)} {log : List Exchange}
    (hu : log ≠ [] ∨ f.underway ≠ []) (sh : Share Gate Console) :
    (⟨log, (f.andThen s.landing sh).1.underway⟩ : Record) ≠ ⟨[], []⟩ := by
  intro he
  obtain ⟨hlog, hunder⟩ := Record.mk.inj he
  rcases hu with hu | hu
  · exact hu hlog
  · exact hu ((Strand.underway_andThen hu s.landing sh).symm.trans hunder)

end ListSource

namespace Slot

variable {α : Type} {slot : Slot α}

theorem shared?_attempts (h : slot.list.loaded = false) : slot.shared? slot.attempts = none := by
  simp [shared?, h]

theorem shared?_landed (h : slot.list.loaded = false) (x : Loaded α) :
    (slot.landed x).shared? slot.attempts = some x := by
  cases x with
  | ok items => rfl
  | error e => simp [shared?, landed, failed, h]

end Slot

namespace Loaders

variable {α : Type} {s : ListSource α} {slot : Slot α} {d d' : Airfield α} {p q : Loaders α} {n : Nat}
  {m m' : Loader α}

inductive Sits (s : ListSource α) (slot : Slot α) : Caller α → Option (Loader α) → Prop
  | absent : Sits s slot .absent none
  | ready : Sits s slot .ready (some ⟨(), [], .ready s.ensure.run⟩)
  | waiting : Sits s slot .waiting (some ⟨(), [], .queued s.gate (s.resumed slot.attempts)⟩)
  | owed {x : Loaded α} {seen : Nat} (h : slot.shared? seen = some x) :
      Sits s slot (.owed x) (some ⟨(), [], .queued s.gate (s.resumed seen)⟩)
  | fetching {log : List Exchange} {f : Strand Gate Console (Loaded α)}
      (hf : f.Spares (fun c ↦ s.slot c.context) (· = .refresh)) (hb : f.begun = true)
      (hr : f.result? = none) (hu : log ≠ [] ∨ f.underway ≠ []) (sh : Share Gate Console) :
      Sits s slot .fetching (some ⟨(), log, (f.andThen s.landing sh).1⟩)
  | shared {x : Loaded α} : Sits s slot (.shared x) (some ⟨(), [], .ended x⟩)
  | fetched {log : List Exchange} {x : Loaded α} : Sits s slot (.fetched x) (some ⟨(), log, .ended x⟩)

theorem Sits.loading {c : Caller α} {o : Option (Loader α)} (h : Sits s slot c o)
    (hc : ∀ x, c ≠ .owed x) : Sits s slot.loading c o := by
  cases h with
  | absent => exact .absent
  | ready => exact .ready
  | waiting => exact @Sits.waiting α s slot.loading
  | owed h => exact (hc _ rfl).elim
  | fetching hf hb hr hu sh => exact .fetching hf hb hr hu sh
  | shared => exact .shared
  | fetched => exact .fetched

theorem Sits.landed {c : Caller α} {o : Option (Loader α)} (h : Sits s slot c o)
    (hc : ∀ x, c ≠ .owed x) (hl : slot.list.loaded = false) (x : Loaded α) :
    Sits s (slot.landed x) (c.told x) o := by
  cases h with
  | absent => exact .absent
  | ready => exact .ready
  | waiting => exact .owed (slot.shared?_landed hl x)
  | owed h => exact (hc _ rfl).elim
  | fetching hf hb hr hu sh => exact .fetching hf hb hr hu sh
  | shared => exact .shared
  | fetched => exact .fetched

/-- A lineup of callers, seen as an airfield. -/
structure Shows (s : ListSource α) (p : Loaders α) (d : Airfield α) : Prop where
  sound : d.Sound
  sits : ∀ i, Sits s d.slot (d.caller i) (p.member? i)
  slot : s.slot p.pool.share.state.context = d.slot
  line : p.line = d.line
  nodup : p.pool.share.held.Nodup
  held : s.gate ∈ p.pool.share.held ↔ ∃ i, d.caller i = .fetching

theorem shows_empty (s : ListSource α) (c : Console) :
    Shows s (.empty c) (.start (s.slot c.context)) := by
  refine ⟨Airfield.sound_start _, fun i ↦ .absent, rfl, rfl, List.nodup_nil, ?_⟩
  simp [Lineup.empty, Pool.empty, Airfield.start]

theorem sits_turned (hm : p.member? n = some m) {s' : Share Gate Console} {c : Nat → Caller α}
    (hn : Sits s slot (c n) (some m')) (h : ∀ i, i ≠ n → Sits s slot (c i) (p.member? i)) (i : Nat) :
    Sits s slot (c i) ((p.turned s.gate n m m' s').member? i) := by
  by_cases hi : i = n
  · subst hi
    rw [Lineup.member?, Lineup.turned, List.getElem?_set_self (Lineup.lt_of_member? hm)]
    exact hn
  · rw [Lineup.member?, Lineup.turned, List.getElem?_set_ne (Ne.symm hi)]
    exact h i hi

theorem Shows.set (h : Shows s p d) (hm : p.member? n = some m) {c : Caller α} {line : List Nat}
    (hd : Airfield.Sound ⟨(d.set n c).caller, d.slot, line⟩) (hn : d.caller n ≠ .fetching)
    (hc : c ≠ .fetching) (hs : Sits s d.slot c (some m')) (hl : Lineup.moved s.gate n m.strand m'.strand p.line = line) :
    Shows s (p.turned s.gate n m m' p.pool.share) ⟨(d.set n c).caller, d.slot, line⟩ := by
  refine ⟨hd, sits_turned hm ?_ fun i hi ↦ ?_, h.slot, hl, h.nodup,
    h.held.trans (Airfield.exists_fetching_set hn hc).symm⟩
  · rw [d.caller_set, if_pos rfl]
    exact hs
  · rw [d.caller_set, if_neg hi]
    exact h.sits i

theorem awaits_of_spares {f : Strand Gate Console (Loaded α)}
    (hf : f.Spares (fun c ↦ s.slot c.context) (· = .refresh)) (sh : Share Gate Console) :
    ((f.andThen s.landing sh).1).awaits s.gate = false := by
  cases f with
  | queued g next =>
    obtain rfl : g = .refresh := hf.1
    rfl
  | _ => rfl

theorem Shows.flies (hs : s.Secluded) (hd : d.Sound) (hn : d.caller n = .fetching) (hm : p.member? n = some m)
    (hrest : ∀ i, i ≠ n → Sits s d.slot (d.caller i) (p.member? i)) (hnodup : p.pool.share.held.Nodup)
    {flight : Strand Gate Console (Loaded α) × Share Gate Console}
    (hf : s.Flight d.slot p.pool.share.held flight)
    (hline : (if m.strand.awaits s.gate then p.line.tail else p.line) = d.line) {log : List Exchange}
    (hu : flight.1.result? = none → log ≠ [] ∨ flight.1.underway ≠ []) :
    let next := flight.1.andThen s.landing flight.2
    ∃ d', (d' = d ∨ ∃ x, d' = d.land n x) ∧
      Shows s (p.turned s.gate n m ⟨(), log, next.1⟩ next.2) d' := by
  intro next
  obtain ⟨f, sh⟩ := flight
  have hmoved : Lineup.moved s.gate n m.strand next.1 p.line = d.line := by
    rw [Lineup.moved, hline, awaits_of_spares hf.spares]
    exact List.append_nil _
  cases hr : f.result? with
  | none =>
    have hnext : next.2 = sh := Strand.share_andThen hf.spares hr s.landing sh
    refine ⟨d, .inl rfl, hd, sits_turned hm ?_ hrest, hnext ▸ hf.slot, hmoved, hnext ▸ hf.nodup hnodup, ?_⟩
    · rw [hn]
      exact .fetching hf.spares hf.begun hr (hu hr) sh
    · exact iff_of_true (hnext ▸ hf.lock) ⟨n, hn⟩
  | some x =>
    cases f with
    | ended y =>
      have hland := hd.landing hn y
      refine ⟨d.land n y, .inr ⟨y, rfl⟩, hd.landed hn y, sits_turned hm ?_ fun i hi ↦ ?_, ?_, hmoved,
        (hf.nodup hnodup).erase s.gate, ?_⟩
      · rw [hland.fetched]
        exact .fetched
      · rw [hland.told i hi]
        exact (hrest i hi).landed (fun z ↦ hland.settled i z) hland.unloaded y
      · exact (hs.slot_put _ _).trans (congrArg (Slot.landed y) hf.slot)
      · exact iff_of_false (hf.nodup hnodup).not_mem_erase fun hi ↦ hi.elim hland.not_fetching
    | _ => cases hr

theorem go_grant_of_shared {seen : Nat} {x : Loaded α} {sh : Share Gate Console} (hg : s.gate ∉ sh.held)
    (hx : (s.slot sh.state.context).shared? seen = some x) :
    (Strand.queued s.gate (s.resumed seen)).go .grant sh = some (.ended x, sh) := by
  rw [Strand.go_grant, if_neg hg, s.resumed_park]
  simp only [hx, Option.elim_some, List.erase_cons_head]

theorem awaits_waiting (s : ListSource α) (seen : Nat) :
    (Strand.queued s.gate (s.resumed seen)).awaits s.gate = true := decide_eq_true rfl

theorem Shows.shares (h : Shows s p d) {seen : Nat} {x : Loaded α} (hc : d.caller n = .owed x)
    (hm : p.member? n = some ⟨(), [], .queued s.gate (s.resumed seen)⟩) (hl : d.line.head? = some n) :
    Shows s (p.turned s.gate n ⟨(), [], .queued s.gate (s.resumed seen)⟩ ⟨(), [], .ended x⟩ p.pool.share)
      (d.share n x) := by
  have hsound := h.sound.step (.share hc hl)
  refine h.set hm hsound (by simp [hc]) (by simp) .shared ?_
  rw [Lineup.moved, awaits_waiting, h.line]
  exact List.append_nil _

theorem go_grant_of_unshared {seen : Nat} {sh : Share Gate Console} (hg : s.gate ∉ sh.held)
    (hx : (s.slot sh.state.context).shared? seen = none) :
    let flight := s.takeoff { sh with held := s.gate :: sh.held }
    (Strand.queued s.gate (s.resumed seen)).go .grant sh = some (flight.1.andThen s.landing flight.2) := by
  rw [Strand.go_grant, if_neg hg, s.resumed_park]
  simp only [hx, Option.elim_none]

theorem Shows.departs (hs : s.Secluded) (h : Shows s p d) {seen : Nat} (hc : d.caller n = .waiting)
    (hm : p.member? n = some ⟨(), [], .queued s.gate (s.resumed seen)⟩) (hl : d.line.head? = some n)
    (hfree : s.gate ∉ p.pool.share.held) :
    let flight := s.takeoff { p.pool.share with held := s.gate :: p.pool.share.held }
    let next := flight.1.andThen s.landing flight.2
    ∃ d', d.Goes d' ∧ Shows s (p.turned s.gate n ⟨(), [], .queued s.gate (s.resumed seen)⟩
      ⟨(), [], next.1⟩ next.2) d' := by
  intro flight next
  have hno : ∀ i, d.caller i ≠ .fetching := fun i hi ↦ hfree (h.held.mpr ⟨i, hi⟩)
  have hstep : d.Step (d.depart n) := .depart hc hl hno
  have hdeparted : (d.depart n).caller n = .fetching := by rw [Airfield.depart, d.caller_set, if_pos rfl]
  have hrest : ∀ i, i ≠ n → Sits s (d.depart n).slot ((d.depart n).caller i) (p.member? i) := by
    intro i hi
    rw [Airfield.depart, d.caller_set, if_neg hi]
    exact (h.sits i).loading (h.sound.not_owed hl hc i)
  -- The fetch runs to its first wait under the lock. It may fail before that, and lands in the same turn.
  obtain ⟨hflight, hsent⟩ := hs.flight_takeoff hfree
  rw [h.slot] at hflight
  obtain ⟨d', hd', hshows⟩ := Shows.flies hs (h.sound.step hstep) hdeparted hm hrest h.nodup hflight
    (by rw [awaits_waiting, h.line]; rfl) fun hr ↦ .inr (hsent hr)
  refine ⟨d', ?_, hshows⟩
  rcases hd' with rfl | ⟨x, rfl⟩
  · exact .move hstep
  · exact .flash hc hl hno

theorem log_ne_nil {f : Strand Gate Console (Loaded α)} {log : List Exchange}
    (hf : f.Spares (fun c ↦ s.slot c.context) (· = .refresh)) (hb : f.begun = true)
    (hr : f.result? = none) (hu : log ≠ [] ∨ f.underway ≠ []) {t : Turn} {sh₀ sh : Share Gate Console}
    {x : Strand Gate Console (Loaded α) × Share Gate Console}
    (hg : (f.andThen s.landing sh₀).1.go t sh = some x) :
    (((f.andThen s.landing sh₀).1.exchange? t).toList ++ log) ≠ [] := by
  cases f with
  | ready u => cases hb
  | sent r k =>
    cases t with
    | answer o => exact List.cons_ne_nil _ _
    | _ => cases hg
  | queued g next => exact List.append_ne_nil_of_right_ne_nil _ (hu.resolve_right fun h ↦ h rfl)
  | ended y => cases hr
  | pair l r k => exact hf.elim

theorem Shows.enters (h : Shows s p d) (hc : d.caller n = .ready)
    (hm : p.member? n = some ⟨(), [], .ready s.ensure.run⟩) :
    let next := s.ensure.run.park p.pool.share
    ∃ d', d.Goes d' ∧ Shows s (p.turned s.gate n ⟨(), [], .ready s.ensure.run⟩ ⟨(), [], next.1⟩ next.2) d' := by
  intro next
  have hn : next = _ := s.ensure_park p.pool.share
  rw [h.slot] at hn
  rw [hn]
  split
  · next hl =>
    have hstep : d.Step _ := .serve hc hl
    refine ⟨_, .move hstep, h.set hm (h.sound.step hstep) (by simp [hc]) (by simp) .shared ?_⟩
    exact (List.append_nil _).trans h.line
  · next hl =>
    have hstep : d.Step _ := .queue hc (Bool.eq_false_iff.mpr hl)
    refine ⟨_, .move hstep, h.set hm (h.sound.step hstep) (by simp [hc]) (by simp) .waiting ?_⟩
    rw [← h.line, Lineup.moved]
    simp [Strand.awaits]

theorem Shows.turn (hs : s.Secluded) (h : Shows s p d) {t : Turn} {s' : Share Gate Console}
    (hm : p.member? n = some m) (hg : m.go t p.pool.share = some (m', s'))
    (hf : m.strand.awaits s.gate = true → p.line.head? = some n) :
    ∃ d', d.Goes d' ∧ Shows s (p.turned s.gate n m m' s') d' := by
  -- What the caller is on the airfield says what its strand is, and so which turn it can have taken.
  have hsits := h.sits n
  rw [hm] at hsits
  simp only [Member.go, Option.map_eq_some_iff, Prod.mk.injEq] at hg
  obtain ⟨⟨st, sh⟩, hg, rfl, rfl⟩ := hg
  rw [h.line] at hf
  generalize hc : d.caller n = c at hsits
  cases hsits with
  | ready =>
    cases t with
    | start =>
      obtain ⟨d', hd', hshows⟩ := h.enters hc hm
      rw [Option.some.inj (hg : some (s.ensure.run.park p.pool.share) = some (st, sh))] at hshows
      exact ⟨d', hd', hshows⟩
    | _ => cases hg
  | waiting =>
    cases t with
    | grant =>
      by_cases hfree : s.gate ∈ p.pool.share.held
      · rw [Strand.go_grant, if_pos hfree] at hg
        cases hg
      · have hx := d.slot.shared?_attempts (h.sound.unloaded n (.inl hc))
        rw [go_grant_of_unshared hfree (h.slot ▸ hx)] at hg
        obtain ⟨d', hd', hshows⟩ := h.departs hs hc hm (hf (awaits_waiting s _)) hfree
        rw [Option.some.inj hg] at hshows
        exact ⟨d', hd', hshows⟩
    | _ => cases hg
  | owed hx =>
    cases t with
    | grant =>
      have hno : ∀ i, d.caller i ≠ .fetching := fun i hi ↦ h.sound.calm i n _ hi hc
      have hfree : s.gate ∉ p.pool.share.held := fun hi ↦ (h.held.mp hi).elim hno
      rw [go_grant_of_shared hfree (h.slot ▸ hx)] at hg
      cases hg
      have hhead := hf (awaits_waiting s _)
      exact ⟨_, .move (.share hc hhead), h.shares hc hm hhead⟩
    | _ => cases hg
  | fetching hfs hb hr hu sh₀ =>
    have hsent := log_ne_nil hfs hb hr hu hg
    rw [Strand.go_andThen hfs hr, Option.map_eq_some_iff] at hg
    obtain ⟨⟨f', sh₁⟩, hg, he⟩ := hg
    have hflight := ListSource.flight_of_go hfs (h.held.mpr ⟨n, hc⟩) hg
    rw [h.slot] at hflight
    obtain ⟨d', hd', hshows⟩ := Shows.flies hs h.sound hc hm (fun i _ ↦ h.sits i) h.nodup hflight
      (by rw [awaits_of_spares hfs]; exact h.line) fun _ ↦ .inl hsent
    rw [he] at hshows
    refine ⟨d', ?_, hshows⟩
    rcases hd' with rfl | ⟨x, rfl⟩
    · exact .still
    · exact .move (.land hc)
  | shared => cases t <;> cases hg
  | fetched => cases t <;> cases hg

theorem shows_join (h : Shows s p d) :
    ∃ d', d.Goes d' ∧ Shows s (p.join () s.ensure.run) d' := by
  let n := p.pool.members.length
  have hlast : p.member? n = none := List.getElem?_eq_none (Nat.le_refl n)
  have hsits := h.sits n
  rw [hlast] at hsits
  have hc : d.caller n = .absent := by
    generalize d.caller n = c at hsits
    cases hsits
    rfl
  have hstep : d.Step (d.set n .ready) := .join hc
  refine ⟨_, .move hstep, h.sound.step hstep, fun i ↦ ?_, h.slot, h.line, h.nodup, h.held.trans ?_⟩
  · rw [d.caller_set, Lineup.member?, Lineup.join]
    split
    · next hi =>
      rw [hi, List.getElem?_concat_length]
      exact .ready
    · next hi =>
      have hother : (p.pool.members ++ [⟨(), [], .ready s.ensure.run⟩])[i]? = p.member? i := by
        rcases Nat.lt_or_gt_of_ne hi with hi | hi
        · exact List.getElem?_append_left hi
        · rw [List.getElem?_eq_none, Lineup.member?, List.getElem?_eq_none]
          · exact Nat.le_of_lt hi
          · rw [List.length_append]
            exact hi
      rw [hother]
      exact h.sits i
  · exact (Airfield.exists_fetching_set (c := .ready) (by simp [hc]) (by simp)).symm

/-- Callers of a list go on as those on an airfield. -/
theorem Shows.step (hs : s.Secluded) (h : Shows s p d) (hst : Lineup.Step s.callers s.gate p q) :
    ∃ d', d.Goes d' ∧ Shows s q d' := by
  cases hst with
  | join job hj => exact shows_join h
  | turn t hm ha hg hf => exact h.turn hs hm hg hf
  | pass hp => exact ⟨d, .still, h.sound, h.sits, hp.trans h.slot, h.line, h.nodup, h.held⟩

theorem Shows.later (hs : s.Secluded) (h : Shows s p d) (hl : Lineup.Later s.callers s.gate p q) :
    ∃ d', d.Runs d' ∧ Shows s q d' := by
  induction hl with
  | refl => exact ⟨d, .refl, h⟩
  | tail _ hst ih =>
    obtain ⟨d', hd, h'⟩ := ih
    obtain ⟨d'', hd', h''⟩ := h'.step hs hst
    exact ⟨d'', hd.tail hd', h''⟩

def Begun (p : Loaders α) (i : Nat) : Prop := ∃ m ∈ p.member? i, m.strand.begun = true

def InFlight (p : Loaders α) (i : Nat) : Prop := p.record i ≠ ⟨[], []⟩ ∧ p.result? i = none

structure Lands (s : ListSource α) (p q : Loaders α) (n : Nat) (x : Loaded α) : Prop where
  attempts : (s.slot q.pool.share.state.context).attempts = (s.slot p.pool.share.state.context).attempts + 1
  unresolved : p.result? n = none
  result : q.result? n = some x

/-- A load has ended with an outcome, some time from `p` on until `q`. -/
def LandsBetween (s : ListSource α) (p q : Loaders α) (x : Loaded α) : Prop :=
  ∃ a b n, Lineup.Later s.callers s.gate p a ∧ Lineup.Step s.callers s.gate a b ∧
    Lineup.Later s.callers s.gate b q ∧ Lands s a b n x

theorem LandsBetween.trans {r : Loaders α} {x : Loaded α} (h : LandsBetween s p q x)
    (hl : Lineup.Later s.callers s.gate q r) : LandsBetween s p r x := by
  obtain ⟨a, b, n, ha, hs, hb, hx⟩ := h
  exact ⟨a, b, n, ha, hs, hb.trans hl, hx⟩

theorem flying_begun {f : Strand Gate Console (Loaded α)} {sh : Share Gate Console} (hb : f.begun = true)
    (hr : f.result? = none) :
    (f.andThen s.landing sh).1.begun = true ∧ (f.andThen s.landing sh).1.result? = none := by
  cases f with
  | ready t => cases hb
  | ended x => cases hr
  | _ => exact ⟨rfl, rfl⟩

namespace Shows

variable (h : Shows s p d)
include h

theorem result? (i : Nat) : p.result? i = (d.caller i).result? := by
  have hsits := h.sits i
  rw [Lineup.result?]
  generalize d.caller i = c at hsits
  generalize p.member? i = o at hsits
  cases hsits with
  | fetching hf hb hr hu sh => exact (flying_begun hb hr).2
  | _ => rfl

theorem record {i : Nat} (hf : d.caller i ≠ .fetching) (hx : ∀ x, d.caller i ≠ .fetched x) :
    p.record i = ⟨[], []⟩ := by
  have hsits := h.sits i
  rw [Lineup.record]
  generalize d.caller i = c at hsits hf hx
  generalize p.member? i = o at hsits
  cases hsits with
  | fetching => exact (hf rfl).elim
  | fetched => exact (hx _ rfl).elim
  | _ => rfl

theorem inFlight_iff {i : Nat} : p.InFlight i ↔ d.caller i = .fetching := by
  constructor
  · intro hi
    by_contra hf
    refine hi.1 (h.record hf fun x hx ↦ ?_)
    have hr := hi.2
    rw [h.result?, hx] at hr
    cases hr
  · intro hf
    refine ⟨?_, by rw [h.result?, hf]; rfl⟩
    have hsits := h.sits i
    rw [hf] at hsits
    rw [Lineup.record]
    generalize p.member? i = o at hsits
    cases hsits with
    | fetching _ hb hr hu sh => exact ListSource.record_andThen_ne hu sh

theorem begun_iff {i : Nat} : p.Begun i ↔ d.caller i ≠ .absent ∧ d.caller i ≠ .ready := by
  have hsits := h.sits i
  rw [Begun]
  generalize d.caller i = c at hsits
  generalize p.member? i = o at hsits
  cases hsits with
  | fetching hf hb hr hu sh => simp [(flying_begun hb hr).1]
  | _ => simp [Strand.begun]

theorem inLine_or_fetching {i : Nat} (hb : p.Begun i) (hr : p.result? i = none) :
    (d.caller i).InLine ∨ d.caller i = .fetching := by
  rw [h.begun_iff] at hb
  rw [h.result?] at hr
  cases hc : d.caller i with
  | absent => exact (hb.1 hc).elim
  | ready => exact (hb.2 hc).elim
  | waiting => exact .inl (.inl rfl)
  | owed x => exact .inl (.inr ⟨x, rfl⟩)
  | fetching => exact .inr rfl
  | _ =>
    rw [hc] at hr
    cases hr

theorem lands_iff {d' : Airfield α} (h' : Shows s q d') (hg : d.Goes d') {x : Loaded α} :
    Lands s p q n x ↔ Airfield.Landing d d' n x := by
  constructor
  · rintro ⟨ha, hp, hq⟩
    rw [h.slot, h'.slot] at ha
    rw [h.result?] at hp
    rw [h'.result?] at hq
    rcases hg.landing_or_quiet h.sound with ⟨k, y, hl⟩ | hquiet
    · have hk : n = k := by
        by_contra hne
        rw [hl.result? hne, hp] at hq
        cases hq
      subst hk
      rw [hl.fetched] at hq
      cases hq
      exact hl
    · rw [hquiet.attempts] at ha
      omega
  · intro hl
    refine ⟨?_, (h.result? n).trans hl.unresolved, ?_⟩
    · rw [h.slot, h'.slot]
      exact hl.attempts
    · rw [h'.result?, hl.fetched]
      rfl

end Shows

theorem Shows.exists_share (h : Shows s p d) {x : Loaded α} (hn : d.caller n = .owed x)
    (hl : d.line.head? = some n) :
    ∃ q, Lineup.Step s.callers s.gate p q ∧ Shows s q (d.share n x) := by
  have hsits := h.sits n
  rw [hn] at hsits
  have hno : ∀ i, d.caller i ≠ .fetching := fun i hi ↦ h.sound.calm i n x hi hn
  have hfree : s.gate ∉ p.pool.share.held := fun hi ↦ (h.held.mp hi).elim hno
  generalize hm : p.member? n = o at hsits
  cases hsits with
  | @owed _ seen hx =>
    have hgo : Member.go ⟨(), [], .queued s.gate (s.resumed seen)⟩ .grant p.pool.share =
        some (⟨(), [], .ended x⟩, p.pool.share) := by
      rw [Member.go, go_grant_of_shared hfree (h.slot ▸ hx)]
      rfl
    exact ⟨_, .turn .grant hm trivial hgo fun _ ↦ h.line ▸ hl, h.shares hn hm hl⟩

/-- Whoever is owed an outcome can get it without an answer, after those before it in the line. -/
theorem Shows.exists_result (h : Shows s p d) {before after : List Nat} {i : Nat} {x : Loaded α}
    (hl : d.line = before ++ i :: after) (hi : d.caller i = .owed x) :
    ∃ q, Lineup.Later s.callers s.gate p q ∧ q.result? i = some x := by
  induction before generalizing p d with
  | nil =>
    obtain ⟨q, hs, hq⟩ := h.exists_share hi (by rw [hl]; rfl)
    refine ⟨q, .single hs, (hq.result? i).trans ?_⟩
    rw [Airfield.share, d.caller_set, if_pos rfl]
    rfl
  | cons j before ih =>
    have hnodup := h.sound.nodup
    have hfore := h.sound.fore
    rw [hl, List.cons_append, List.nodup_cons] at hnodup
    rw [hl, List.cons_append, List.pairwise_cons] at hfore
    have hmem : i ∈ before ++ i :: after := List.mem_append_right _ List.mem_cons_self
    have hne : i ≠ j := fun he ↦ hnodup.1 (he ▸ hmem)
    rcases (h.sound.mem j).mp (by rw [hl]; exact List.mem_cons_self) with hj | ⟨y, hj⟩
    · rw [hfore.1 i hmem hj] at hi
      cases hi
    · obtain ⟨q, hs, hq⟩ := h.exists_share hj (by rw [hl]; rfl)
      obtain ⟨r, hr, hx⟩ := ih hq (by rw [Airfield.share, hl]; rfl)
        (by rw [Airfield.share, d.caller_set, if_neg hne]; exact hi)
      exact ⟨r, .head hs hr, hx⟩

variable {r : Loaders α} {x : Loaded α}

/-- Those who wait when a load lands share its outcome. -/
theorem Shows.shares_landing (hs : s.Secluded) (hq : Shows s q d')
    (hland : Airfield.Landing d d' n x) {i : Nat} (hi : i ≠ n) (hw : (d.caller i).InLine) (hr : Lineup.Later s.callers s.gate q r) :
    r.record i = ⟨[], []⟩ ∧ (∀ y, r.result? i = some y → y = x) ∧
      ∃ r', Lineup.Later s.callers s.gate r r' ∧ r'.result? i = some x := by
  obtain ⟨e, he, hshows⟩ := hq.later hs hr
  have hgets := he.gets hq.sound (.inl (hland.owed_of_inLine hi hw))
  refine ⟨hshows.record ?_ ?_, fun y hy ↦ ?_, ?_⟩
  · rcases hgets with hc | hc <;> simp [hc]
  · rcases hgets with hc | hc <;> simp [hc]
  · rw [hshows.result?] at hy
    rcases hgets with hc | hc
    · rw [hc] at hy
      cases hy
    · rw [hc] at hy
      exact (Option.some.inj hy).symm
  · rcases hgets with hc | hc
    · obtain ⟨before, after, hline⟩ := List.append_of_mem ((hshows.sound.mem i).mpr (.inr ⟨x, hc⟩))
      exact hshows.exists_result hline hc
    · refine ⟨r, .refl, ?_⟩
      rw [hshows.result?, hc]
      rfl

/-- A list that is loaded stays as it is, and is not asked for again. -/
theorem Shows.serves (hs : s.Secluded) (hq : Shows s q d) {items : List α} (hserved : Airfield.Served items d)
    (hr : Lineup.Later s.callers s.gate q r) :
    s.slot r.pool.share.state.context = s.slot q.pool.share.state.context ∧
      (∀ i, r.record i = q.record i) ∧
      ∀ i y, q.result? i = none → r.result? i = some y → y = .ok items := by
  obtain ⟨e, he, hshows⟩ := hq.later hs hr
  have halike := hserved.runs hq.sound he
  have hserved' := hserved.of_alike halike
  refine ⟨?_, fun i ↦ ?_, fun i y hn hy ↦ ?_⟩
  · rw [hshows.slot, hq.slot]
    exact halike.slot
  · by_cases hx : ∃ x, d.caller i = .fetched x
    · obtain ⟨x, hx⟩ := hx
      have hresult := hq.result? i
      rw [hx] at hresult
      obtain ⟨m, hm, hresult⟩ := Option.bind_eq_some_iff.mp hresult
      rw [Lineup.record, Lineup.record, Lineup.Later.member?_of_ended hr hm hresult, hm]
    · have hx' : ∀ x, e.caller i ≠ .fetched x := fun x hc ↦ hx ⟨x, halike.of_ne hc (by simp) (by simp)⟩
      rw [hshows.record (hserved'.not_fetching i) hx', hq.record (hserved.not_fetching i) (not_exists.mp hx)]
  · rw [hq.result?] at hn
    rw [hshows.result?] at hy
    rcases halike.caller i with he | ⟨-, he | he⟩
    · rw [he, hn] at hy
      cases hy
    · rw [he] at hy
      cases hy
    · rw [he] at hy
      exact (Option.some.inj hy).symm

/-- Where no list is loaded, whoever has not begun comes to the outcome of a load that ends later. -/
theorem Shows.lands_between (hs : s.Secluded) (h : Shows s p d) (hd : d.slot.list.loaded = false)
    (hl : Lineup.Later s.callers s.gate p q) :
    ∃ e, Shows s q e ∧ (e.slot.list.loaded = true → LandsBetween s p q (.ok e.slot.list.items)) ∧
      ∀ i y, d.caller i = .absent ∨ d.caller i = .ready →
        e.caller i = .owed y ∨ (e.caller i).result? = some y → LandsBetween s p q y := by
  -- By induction on the run. What one is owed counts as what one has: it was told when the load landed.
  induction hl with
  | refl =>
    refine ⟨d, h, fun hl ↦ ?_, fun i y hi hy ↦ ?_⟩
    · rw [hd] at hl
      cases hl
    · rcases hi with hi | hi <;> simp [hi, Caller.result?] at hy
  | @tail a b hl hst ih =>
    obtain ⟨e, ha, hloaded, hcaller⟩ := ih
    obtain ⟨e', hg, hb⟩ := ha.step hs hst
    have hext : ∀ {y}, LandsBetween s p a y → LandsBetween s p b y := fun hy ↦ hy.trans (.single hst)
    refine ⟨e', hb, ?_⟩
    rcases hg.landing_or_quiet ha.sound with ⟨k, x, hland⟩ | hquiet
    · have hx : LandsBetween s p b x := ⟨a, b, k, hl, hst, .refl, (ha.lands_iff hb hg).mpr hland⟩
      refine ⟨fun hload ↦ ?_, fun i y hi hy ↦ ?_⟩
      · cases x with
        | ok items => exact hland.served.slot_items ▸ hx
        | error err =>
          rw [hland.not_loaded] at hload
          cases hload
      · rcases hy with hy | hy
        · exact hland.owed hy ▸ hx
        · by_cases hk : i = k
          · subst hk
            rw [hland.fetched] at hy
            exact Option.some.inj hy ▸ hx
          · rw [hland.result? hk] at hy
            exact hext (hcaller i y hi (.inr hy))
    · refine ⟨fun hload ↦ ?_, fun i y hi hy ↦ ?_⟩
      · rw [hquiet.items]
        exact hext (hloaded (hquiet.loaded ▸ hload))
      · rcases hy with hy | hy
        · exact hext (hcaller i y hi (.inl (hquiet.owed hy)))
        · rcases hquiet.result hy with hy | hy | ⟨hload, rfl⟩
          · exact hext (hcaller i y hi (.inr hy))
          · exact hext (hcaller i y hi (.inl hy))
          · exact hext (hloaded hload)

end Loaders

abbrev ReferenceKind.Item : ReferenceKind → Type
  | countries => Country
  | clients => ClientOption
  | roles => Role

namespace ListSource

def of : (k : ReferenceKind) → ListSource k.Item
  | .countries => countries
  | .clients => clients
  | .roles => roles

theorem secluded_of (k : ReferenceKind) : (of k).Secluded := by
  cases k with
  | _ => exact ⟨fun _ _ ↦ rfl, fetchVia_leaves (fun _ _ ↦ rfl) _ _ _, fetchVia_first _ _ _⟩

end ListSource

namespace Loaders

/-- Callers of a reference list, in any number and in any order behind its lock, where nobody invalidates
it. One of them is in flight at a time, and each of the others that have begun has its result or stands in
the line. The load of one in flight lands when it ends, and nobody is in flight then. Whoever else had begun
and has no result yet shares the outcome, be it an error, without a request. After a load has failed, whoever
begins comes to the outcome of a load that ends later. After one has succeeded no request is made and the
list is left as it is, and all who have no result yet come to its items. -/
theorem single_flight (k : ReferenceKind) (c : Console) {p : Loaders k.Item}
    (hp : Lineup.Later (ListSource.of k).callers (ListSource.of k).gate (.empty c) p) :
    let s := ListSource.of k
    let Later := Lineup.Later s.callers s.gate
    (∀ i j, p.InFlight i → p.InFlight j → i = j) ∧
    (∀ i, p.Begun i → p.result? i = none → i ∈ p.line ∨ p.InFlight i) ∧
    ∀ q : Loaders k.Item, Lineup.Step s.callers s.gate p q →
      (∀ i x, p.InFlight i → q.result? i = some x → Lands s p q i x) ∧
      ∀ n x, Lands s p q n x →
        (∀ i, ¬q.InFlight i) ∧
        (∀ i, i ≠ n → p.Begun i → p.result? i = none → ∀ r, Later q r →
          r.record i = ⟨[], []⟩ ∧ (∀ y, r.result? i = some y → y = x) ∧
            ∃ r', Later r r' ∧ r'.result? i = some x) ∧
        (∀ e, x = .error e → ∀ i, ¬q.Begun i → ∀ r y, Later q r → r.result? i = some y →
          LandsBetween s q r y) ∧
        ∀ items, x = .ok items → ∀ r, Later q r →
          s.slot r.pool.share.state.context = s.slot q.pool.share.state.context ∧
            (∀ i, r.record i = q.record i) ∧
            ∀ i y, q.result? i = none → r.result? i = some y → y = .ok items := by
  intro s Later
  have hs : s.Secluded := ListSource.secluded_of k
  obtain ⟨d, -, h⟩ := (shows_empty s c).later hs hp
  refine ⟨fun i j hi hj ↦ ?_, fun i hb hr ↦ ?_, fun q hst ↦ ?_⟩
  · exact h.sound.single i j (h.inFlight_iff.mp hi) (h.inFlight_iff.mp hj)
  · refine (h.inLine_or_fetching hb hr).imp (fun hl ↦ ?_) h.inFlight_iff.mpr
    rw [h.line]
    exact (h.sound.mem i).mpr hl
  · obtain ⟨d', hg, hq⟩ := h.step hs hst
    refine ⟨fun i x hi hx ↦ ?_, fun n x hland ↦ ?_⟩
    · rw [hq.result?] at hx
      exact (h.lands_iff hq hg).mpr (hg.landing_of_fetching h.sound (h.inFlight_iff.mp hi) hx)
    · have hland := (h.lands_iff hq hg).mp hland
      refine ⟨fun i hi ↦ hland.not_fetching i (hq.inFlight_iff.mp hi), fun i hi hb hr r hl ↦ ?_, ?_, ?_⟩
      · have hw := (h.inLine_or_fetching hb hr).resolve_right (hland.alone i hi)
        exact hq.shares_landing hs hland hi hw hl
      · rintro e rfl i hi r y hl hy
        obtain ⟨e', hr, -, hcaller⟩ := hq.lands_between hs hland.not_loaded hl
        rw [hr.result?] at hy
        refine hcaller i y ?_ (.inr hy)
        rw [hq.begun_iff] at hi
        by_contra hn
        exact hi (not_or.mp hn)
      · rintro items rfl r hl
        exact hq.serves hs hland.served hl

instance (s : ListSource α) [DecidableEq α] (p q : Loaders α) (n : Nat) (x : Loaded α) :
    Decidable (Lands s p q n x) :=
  decidable_of_iff (_ ∧ p.result? n = none ∧ q.result? n = some x)
    ⟨fun h ↦ ⟨h.1, h.2.1, h.2.2⟩, fun h ↦ ⟨h.attempts, h.unresolved, h.result⟩⟩

instance (s : ListSource α) : DecidablePred s.callers.admits := fun _ ↦ inferInstanceAs (Decidable True)

instance (s : ListSource α) (rs : List Record) (r : Record) : DecidablePred (s.callers.allows rs r) :=
  fun _ ↦ inferInstanceAs (Decidable True)

instance (p : Loaders α) (i : Nat) : Decidable (p.Begun i) :=
  inferInstanceAs (Decidable (∃ m ∈ p.member? i, m.strand.begun = true))

/-- Two callers share a load that fails. A third one comes afterwards and loads the list, and it is not asked
for again. -/
theorem single_flight_of_retry :
    let host : Host := ⟨.empty .memory, ⟨0⟩, fun _ ↦ ⟨List.replicate 32 0, rfl⟩, 0⟩
    let c : Console := ⟨.blank host, .fresh (.ofBase "http://h") "host"⟩
    let s := ListSource.of .countries
    let Later := Lineup.Later s.callers s.gate
    ∃ p q : Loaders Country, Later (.empty c) p ∧ Lands s p q 0 (.error .transport) ∧
      (∀ r, Later q r → r.record 1 = ⟨[], []⟩ ∧
        ∃ r', Later r r' ∧ r'.result? 1 = some (.error .transport)) ∧
      ∃ p' q' : Loaders Country, Later q p' ∧ Lands s p' q' 2 (.ok []) ∧ LandsBetween s q q' (.ok []) ∧
        ∀ r, Later q' r → ∀ i, r.record i = q'.record i := by
  intro host c s Later
  let first : List (Event Unit) := [.join (), .turn 0 .start, .join (), .turn 1 .start, .turn 0 .grant]
  let second : List (Event Unit) := [.join (), .turn 1 .grant, .turn 2 .start, .turn 2 .grant]
  have hplay : ∃ p q : Loaders Country, Later (.empty c) p ∧ Lineup.Step s.callers s.gate p q ∧
      Lands s p q 0 (.error .transport) ∧ p.Begun 1 ∧ p.result? 1 = none ∧ ¬q.Begun 2 ∧
      ((q.play s.callers s.gate second).any fun a ↦ (a.after s.callers s.gate
        (.turn 2 (.receive 200 "\x7b\"success\":true,\"message\":\"\",\"data\":[]\x7d"))).any
          fun b ↦ decide (Lands s a b 2 (.ok []))) = true :=
    Lineup.exists_step_of_play first (.turn 0 (.answer none)) (by decide +kernel)
  obtain ⟨p, q, hp, hst, hland, hb, hr, hn, hplay'⟩ := hplay
  obtain ⟨p', q', hp', hst', hland'⟩ := Lineup.exists_step_of_play second _ hplay'
  obtain ⟨-, hshare, hretry, -⟩ := (single_flight .countries c hp).2.2 q hst |>.2 0 _ hland
  obtain ⟨-, -, -, hserve⟩ :=
    (single_flight .countries c (hp.trans (.head hst hp'))).2.2 q' hst' |>.2 2 _ hland'
  refine ⟨p, q, hp, hland, fun r hl ↦ ?_, p', q', hp', hland', ?_, fun r hl ↦ (hserve [] rfl r hl).2.1⟩
  · obtain ⟨hrecord, -, hresult⟩ := hshare 1 (by decide) hb hr r hl
    exact ⟨hrecord, hresult⟩
  · exact hretry _ rfl 2 hn q' _ (hp'.tail hst') hland'.result

end Loaders

end Backoffice
