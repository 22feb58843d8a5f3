import Backoffice.Proofs.Client.Invalidation
import Backoffice.Proofs.Client.UnitChoice
import Backoffice.Proofs.Task.History

namespace Backoffice

open Console
open Web (Response)

abbrev UnitReport := Report (Id .client) (Loaded UnitOption)

namespace ListState

variable {α : Type}

def fetching (l : ListState α) : ListState α := { l with loading := true, error := none }

def fetched (l : ListState α) : Loaded α → ListState α
  | .ok items => { l with items, loading := false, loaded := true }
  | .error e => { l with loading := false, error := some e }

def hear (id : Id .client) : UnitReport → ListState UnitOption → ListState UnitOption
  | .begun k, l => if k.isBlank then .unloaded else if k = id then l.fetching else l
  | .ended k x, l => if k.isBlank then l else if k = id then l.fetched x else l

end ListState

namespace UnitCache

variable {c : UnitCache}

theorem list_eq_unloaded {k : Id .client} (h : ∀ e ∈ c, k ≠ e.1) : c.list k = .unloaded := by
  induction c with
  | nil => rfl
  | cons e rest ih =>
    rw [list, if_neg (h e List.mem_cons_self).symm]
    exact ih fun e' he ↦ h e' (List.mem_cons_of_mem _ he)

theorem list_update_self (h : ClientsInOrder c) (k : Id .client) (f : ListState UnitOption → ListState UnitOption) :
    (update k f c).list k = f (c.list k) := by
  induction c with
  | nil => exact if_pos rfl
  | cons e rest ih =>
    obtain ⟨j, l⟩ := e
    obtain ⟨hj, hrest⟩ := List.pairwise_cons.mp h
    simp only [update]
    split
    · next he => rw [list, if_pos he, list, if_pos he]
    · next hne =>
      split
      · next hlt =>
        have hnone : list ((j, l) :: rest) k = .unloaded := by
          refine list_eq_unloaded fun e he heq ↦ ?_
          rcases List.mem_cons.mp he with rfl | he
          · exact hne heq.symm
          · exact List.lt_irrefl _ (List.lt_trans (Text.lt_iff_bytes_lt.mp hlt) (heq ▸ hj e he))
        rw [hnone, list, if_pos rfl]
      · rw [list, if_neg hne, ih hrest, list, if_neg hne]

theorem list_update_of_ne {k id : Id .client} (h : k ≠ id) (f : ListState UnitOption → ListState UnitOption)
    (c : UnitCache) : (update k f c).list id = c.list id := by
  induction c with
  | nil => exact if_neg h
  | cons e rest ih =>
    obtain ⟨j, l⟩ := e
    simp only [update]
    split
    · next he => rw [list, if_neg (he ▸ h), list, if_neg (he ▸ h)]
    · split
      · rw [list, if_neg h]
      · simp only [list, ih]

theorem list_update (h : ClientsInOrder c) (k id : Id .client) (f : ListState UnitOption → ListState UnitOption) :
    (update k f c).list id = if k = id then f (c.list id) else c.list id := by
  split
  · next hk => exact hk ▸ list_update_self h k f
  · next hk => exact list_update_of_ne hk f c

def hear : UnitReport → UnitCache → UnitCache
  | .begun k, c => if k.isBlank then [] else update k ListState.fetching c
  | .ended k x, c => if k.isBlank then c else update k (·.fetched x) c

theorem inOrder_hear (h : ClientsInOrder c) (r : UnitReport) : ClientsInOrder (hear r c) := by
  cases r with
  | begun k =>
    rw [hear]
    split
    · exact .nil
    · exact inOrder_update h
  | ended k x =>
    rw [hear]
    split
    · exact h
    · exact inOrder_update h

theorem list_hear (h : ClientsInOrder c) (id : Id .client) (r : UnitReport) :
    (hear r c).list id = (c.list id).hear id r := by
  cases r with
  | begun k =>
    simp only [hear, ListState.hear]
    split
    · rfl
    · rw [list_update h]
  | ended k x =>
    simp only [hear, ListState.hear]
    split
    · rfl
    · rw [list_update h]

theorem list_foldr_hear (hc : ClientsInOrder c) (id : Id .client) (h : List UnitReport) :
    ClientsInOrder (h.foldr hear c) ∧ (h.foldr hear c).list id = h.foldr (ListState.hear id) (c.list id) := by
  induction h with
  | nil => exact ⟨hc, rfl⟩
  | cons r h ih =>
    rw [List.foldr_cons, list_hear ih.1, ih.2]
    exact ⟨inOrder_hear ih.1 r, rfl⟩

end UnitCache

namespace Console

def changeUnits (f : UnitCache → UnitCache) (c : Console) : Console :=
  { c with context := { c.context with units := f c.context.units } }

def unitsOf (x : Except ClientError (Envelope (List UnitOption))) : Loaded UnitOption :=
  x.map fun v ↦ v.data.getD []

def landUnits (id : Id .client) (x : Except ClientError (Envelope (List UnitOption))) :
    ConsoleM (Loaded UnitOption) :=
  .update (changeUnits (UnitCache.update id (·.fetched (unitsOf x)))) (.done (unitsOf x))

theorem fetchUnits_run_of_blank {id : Id .client} (h : id.isBlank = true) :
    (fetchUnits id).run = .update (changeUnits fun _ ↦ []) (.done (.ok [])) := by
  unfold fetchUnits
  rw [if_pos h]
  rfl

@[irreducible]
def getUnits (id : Id .client) (routes : Routes) : Action (Envelope (List UnitOption)) :=
  getEnvelope (Decoder.list UnitOption.decode) (routes.businessUnits id)

theorem getUnits_leaves {π : Type} {part : Context → π} (hp : OverlooksSignOuts part) (id : Id .client)
    (routes : Routes) : Leaves part (getUnits id routes).run := by
  unfold getUnits
  exact sendEnvelope_leaves hp _ _ _ _

theorem fetchUnits_run {id : Id .client} (h : id.isBlank = false) :
    (fetchUnits id).run = .update (changeUnits (UnitCache.update id ListState.fetching))
      (.look fun c ↦ (getUnits id c.context.routes).run.bind (landUnits id)) := by
  unfold fetchUnits
  rw [if_neg (Bool.eq_false_iff.mp h)]
  refine congrArg (Task.update _) (congrArg Task.look (funext fun c ↦ ?_))
  rw [getUnits]
  refine (Task.bind_assoc (getEnvelope _ _).run _ _).trans (congrArg (getEnvelope _ _).run.bind (funext fun x ↦ ?_))
  cases x <;> rfl

/-- A fetch changes nothing but what is kept of units, and of that only the list of its client, if it has one. -/
theorem fetchUnits_leaves {π : Type} {part : Context → π} (hp : OverlooksSignOuts part) {id : Id .client}
    (hclear : id.isBlank = true → ∀ c, part { c with units := [] } = part c)
    (hupdate : ∀ f c, part { c with units := UnitCache.update id f c.units } = part c) :
    Leaves part (fetchUnits id).run := by
  cases hid : id.isBlank with
  | true =>
    rw [fetchUnits_run_of_blank hid]
    exact ⟨fun c ↦ ⟨hclear hid c.context, trivial⟩⟩
  | false =>
    rw [fetchUnits_run hid]
    have hget (routes : Routes) : Leaves part ((getUnits id routes).run.bind (landUnits id)) :=
      (getUnits_leaves hp id routes).bind fun x ↦ ⟨fun c ↦ ⟨hupdate _ c.context, trivial⟩⟩
    exact ⟨fun c ↦ ⟨hupdate _ c.context, (hget _).sparesFrom _⟩⟩

def sendUnits (id : Id .client) (sh : Share Gate Console) :
    Strand Gate Console (Except ClientError (Envelope (List UnitOption))) × Share Gate Console :=
  (getUnits id sh.state.context.routes).run.park
    { sh with state := changeUnits (UnitCache.update id ListState.fetching) sh.state }

theorem fetchUnits_park {id : Id .client} (h : id.isBlank = false) (sh : Share Gate Console) :
    (fetchUnits id).run.park sh = (sendUnits id sh).1.andThen (landUnits id) (sendUnits id sh).2 := by
  rw [fetchUnits_run h, Task.park, Task.park, Task.park_bind]
  rfl

theorem sendUnits_spares (id : Id .client) (sh : Share Gate Console) :
    (sendUnits id sh).1.Spares (fun c ↦ c.context.units) (· = .refresh) ∧ (sendUnits id sh).1.begun = true ∧
      (sendUnits id sh).2.state.context.units = UnitCache.update id ListState.fetching sh.state.context.units := by
  let sent : Share Gate Console := { sh with state := changeUnits (UnitCache.update id ListState.fetching) sh.state }
  have hleaves : Leaves Context.units (getUnits id sh.state.context.routes).run := getUnits_leaves (fun _ _ ↦ rfl) _ _
  obtain ⟨hs, hk⟩ := (hleaves.sparesFrom sent.state).park (s := sent)
  exact ⟨hs, Task.park_begun _ sent, hk.state⟩

/-- The last exchange was a request for the units of a client, and its answer carries these. -/
def FetchedUnits (id : Id .client) (items : List UnitOption) (log : List Exchange) : Prop :=
  ∃ (routes : Routes) (a : Response) (v : Envelope (List UnitOption)),
    Answered "GET" (routes.businessUnits id) .empty a log ∧
      envelopeOf (Decoder.list UnitOption.decode) a = .ok v ∧ items = v.data.getD []

theorem getUnits_recounts (id : Id .client) (routes : Routes) (log : List Exchange) :
    (getUnits id routes).run.Recounts (fun x log ↦ ∀ v, x = .ok v → ∃ a,
      Answered "GET" (routes.businessUnits id) .empty a log ∧
        envelopeOf (Decoder.list UnitOption.decode) a = .ok v) log := by
  unfold getUnits
  exact getEnvelope_recounts _ _

theorem fetchUnits_recounts {id : Id .client} (h : id.isBlank = false) (log : List Exchange) :
    (fetchUnits id).run.Recounts (fun x log ↦ ∀ items, x = .ok items → FetchedUnits id items log) log := by
  intro s
  rw [fetchUnits_run h, Task.Tells, Task.Tells]
  refine Task.Tells.bind (getUnits_recounts id _ log _) fun x s log hx items hi ↦ ?_
  cases x with
  | ok v =>
    obtain ⟨a, ha, hd⟩ := hx v rfl
    exact ⟨_, a, v, ha, hd, (Except.ok.inj hi).symm⟩
  | error e => cases hi

end Console

abbrev UnitFetches := Pool (Id .client) Gate Console (Loaded UnitOption)

abbrev UnitFetcher := Member (Id .client) Gate Console (Loaded UnitOption)

/-- Any number of fetches of units, of any clients and in any order. Whatever else happens while they wait, nobody else
changes the units that are kept. -/
def unitFetches : Setting (Id .client) Gate Console (Loaded UnitOption) where
  task id := (fetchUnits id).run
  admits _ := True
  allows _ _ _ := True
  passes c c' := c'.context.units = c.context.units

namespace UnitFetches

inductive Stands : UnitFetcher → Prop
  | ready (id : Id .client) : Stands ⟨id, [], .ready (fetchUnits id).run⟩
  | waiting {id : Id .client} (hid : id.isBlank = false) (log : List Exchange)
      {f : Strand Gate Console (Except ClientError (Envelope (List UnitOption)))}
      (hf : f.Spares (fun c ↦ c.context.units) (· = .refresh)) (hb : f.begun = true) (hr : f.result? = none)
      (sh : Share Gate Console) : Stands ⟨id, log, (f.andThen (landUnits id) sh).1⟩
  | ended (id : Id .client) (log : List Exchange) (x : Loaded UnitOption) : Stands ⟨id, log, .ended x⟩

theorem stands_andThen {id : Id .client} (hid : id.isBlank = false) (log : List Exchange)
    {f : Strand Gate Console (Except ClientError (Envelope (List UnitOption)))}
    (hf : f.Spares (fun c ↦ c.context.units) (· = .refresh)) (hb : f.begun = true) (sh : Share Gate Console) :
    let next := f.andThen (landUnits id) sh
    Stands ⟨id, log, next.1⟩ ∧ next.2.state.context.units =
      (next.1.result?.map (Report.ended id)).toList.foldr UnitCache.hear sh.state.context.units := by
  cases f with
  | ready t => cases hb
  | ended x =>
    refine ⟨.ended id log _, ?_⟩
    change _ = UnitCache.hear (.ended id (unitsOf x)) _
    rw [UnitCache.hear, if_neg (Bool.eq_false_iff.mp hid)]
    rfl
  | pair l r k => exact hf.elim
  | sent r k => exact ⟨.waiting hid log hf hb rfl sh, rfl⟩
  | queued g next => exact ⟨.waiting hid log hf hb rfl sh, rfl⟩

theorem begun_andThen {f : Strand Gate Console (Except ClientError (Envelope (List UnitOption)))}
    (hb : f.begun = true) (hr : f.result? = none) (id : Id .client) (sh : Share Gate Console) :
    (f.andThen (landUnits id) sh).1.begun = true := by
  cases f with
  | ready t => cases hb
  | ended x => cases hr
  | _ => rfl

/-- The cache changes only as fetches are heard of. -/
theorem audible : Audible unitFetches (fun c ↦ c.context.units) UnitCache.hear Stands where
  join id _ := .ready id
  pass hp := hp
  turn {m m' t s s'} hm hg := by
    simp only [Member.go, Option.map_eq_some_iff, Prod.mk.injEq] at hg
    obtain ⟨⟨st, s₁⟩, hg, rfl, rfl⟩ := hg
    cases hm with
    | ready id =>
      cases t with
      | start =>
        replace hg : some ((fetchUnits id).run.park s) = some (st, s₁) := hg
        cases hid : id.isBlank with
        | true =>
          rw [fetchUnits_run_of_blank hid] at hg
          cases hg
          refine ⟨.ended id _ _, ?_⟩
          change _ = UnitCache.hear (.ended id (.ok [])) (UnitCache.hear (.begun id) s.state.context.units)
          rw [UnitCache.hear, if_pos hid, UnitCache.hear, if_pos hid]
          rfl
        | false =>
          -- The fetch runs to its first wait. It may fail before that.
          rw [fetchUnits_park hid] at hg
          obtain ⟨hspares, hbegun, hsent⟩ := sendUnits_spares id s
          obtain ⟨hst, hunits⟩ := stands_andThen hid [] hspares hbegun (sendUnits id s).2
          obtain rfl := congrArg Prod.fst (Option.some.inj hg)
          obtain rfl := congrArg Prod.snd (Option.some.inj hg)
          refine ⟨hst, hunits.trans ?_⟩
          rw [Member.reports, List.foldr_append]
          refine congrArg (List.foldr UnitCache.hear · _) (hsent.trans ?_)
          change _ = UnitCache.hear (.begun id) s.state.context.units
          rw [UnitCache.hear, if_neg (Bool.eq_false_iff.mp hid)]
      | _ => cases hg
    | @waiting id hid log f hf hb hr sh =>
      rw [Strand.go_andThen hf hr, Option.map_eq_some_iff] at hg
      obtain ⟨⟨f', s₂⟩, hg, he⟩ := hg
      obtain ⟨hf', hb', hspared⟩ := Strand.spares_of_go hf hg
      obtain ⟨hst, hunits⟩ := stands_andThen hid
        (((f.andThen (landUnits id) sh).1.exchange? t).toList ++ log) hf' hb' s₂
      obtain rfl := congrArg Prod.fst he
      obtain rfl := congrArg Prod.snd he
      refine ⟨hst, hunits.trans ?_⟩
      rw [Member.reports, begun_andThen hb hr, if_pos rfl, List.append_nil, hspared.state]
      rfl
    | ended id log x => cases t <;> cases hg

def Traced (m : UnitFetcher) : Prop :=
  m.job.isBlank = false →
    m.strand.Recounts (fun x log ↦ ∀ items, x = .ok items → FetchedUnits m.job items log) m.log

theorem traced_of_go {m m' : UnitFetcher} {t : Turn} {s s' : Share Gate Console} (hm : Traced m)
    (hg : m.go t s = some (m', s')) : Traced m' := by
  simp only [Member.go, Option.map_eq_some_iff, Prod.mk.injEq] at hg
  obtain ⟨⟨st, s₁⟩, hg, rfl, rfl⟩ := hg
  exact fun hid ↦ (hm hid).go hg

theorem fetched_of_result {c : Console} {h : List UnitReport} {q : UnitFetches}
    (hq : Pool.Heard unitFetches (.empty c) h q) {m : UnitFetcher} (hm : m ∈ q.members) (hid : m.job.isBlank = false)
    {items : List UnitOption} (hr : m.result? = some (.ok items)) : FetchedUnits m.job items m.log := by
  have hrec : Traced m := hq.forall_members (fun id _ hid ↦ fetchUnits_recounts hid []) traced_of_go m hm
  replace hrec := hrec hid
  obtain ⟨job, log, st⟩ := m
  cases st with
  | ended x => exact hrec items (Option.some.inj hr)
  | _ => cases hr

end UnitFetches

namespace UnitReport

/-- What a fetch of a client is heard to come to. As all that is kept is cleared, it is as if no units had come. -/
def outcome? (id : Id .client) : UnitReport → Option (Loaded UnitOption)
  | .begun k => if k.isBlank then some (.ok []) else none
  | .ended k x => if k = id then some x else none

def items? (id : Id .client) (r : UnitReport) : Option (List UnitOption) := (outcome? id r).bind Except.toOption

/-- A fetch of a client begins, or all that is kept is cleared. -/
def Resets (id : Id .client) : UnitReport → Prop
  | .begun k => k.isBlank = true ∨ k = id
  | .ended _ _ => False

/-- The error that is kept, where a report says so. -/
def error? (id : Id .client) : UnitReport → Option (Option ClientError)
  | .begun k => if k.isBlank then some none else if k = id then some none else none
  | .ended k (.error e) => if k = id then some (some e) else none
  | .ended _ (.ok _) => none

variable {id : Id .client} {r : UnitReport} {h : List UnitReport}

theorem resets_iff : Resets id r ↔ error? id r = some none := by
  cases r with
  | begun k => by_cases hk : k.isBlank <;> by_cases hi : k = id <;> simp [Resets, error?, hk, hi]
  | ended k x => cases x <;> simp [Resets, error?]

theorem eq_ended_of_outcome? {e : ClientError} (h : outcome? id r = some (.error e)) : r = .ended id (.error e) := by
  cases r with
  | begun k =>
    rw [outcome?, Option.ite_none_right_eq_some] at h
    cases h.2
  | ended k x =>
    rw [outcome?, Option.ite_none_right_eq_some] at h
    obtain ⟨rfl, hx⟩ := h
    rw [Option.some.inj hx]

theorem eq_ended_of_error? {e : ClientError} (h : error? id r = some (some e)) : r = .ended id (.error e) := by
  cases r with
  | begun k =>
    simp only [error?] at h
    split at h
    · cases h
    · rw [Option.ite_none_right_eq_some] at h
      cases h.2
  | ended k x =>
    cases x with
    | ok items => cases h
    | error e' =>
      rw [error?, Option.ite_none_right_eq_some] at h
      obtain ⟨rfl, he⟩ := h
      rw [Option.some.inj (Option.some.inj he)]

theorem error?_of_outcome? (hr : outcome? id r = none) (hb : r ≠ .begun id) : error? id r = none := by
  cases r with
  | begun k =>
    have hk : ¬k.isBlank = true := fun hk ↦ by rw [outcome?, if_pos hk] at hr; cases hr
    rw [error?, if_neg hk, if_neg fun he ↦ hb (congrArg Report.begun he)]
  | ended k x =>
    have hk : k ≠ id := fun hk ↦ by rw [outcome?, if_pos hk] at hr; cases hr
    cases x with
    | ok items => rfl
    | error e => exact if_neg hk

/-- The error of a fetch is kept unless a fetch began later. -/
theorem error_kept_iff : (∃ e, h.findSome? (error? id) = some (some e)) ↔
    ∃ later e earlier, h = later ++ .ended id (.error e) :: earlier ∧ ∀ r ∈ later, ¬Resets id r := by
  constructor
  · rintro ⟨e, he⟩
    obtain ⟨later, r, earlier, rfl, hr, hlater⟩ := List.findSome?_eq_some_iff.mp he
    refine ⟨later, e, earlier, by rw [eq_ended_of_error? hr], fun r' hr' hres ↦ ?_⟩
    cases (hlater r' hr').symm.trans (resets_iff.mp hres)
  · rintro ⟨later, e, earlier, rfl, hlater⟩
    rw [List.findSome?_append]
    cases hl : later.findSome? (error? id) with
    | none =>
      have he : error? id (.ended id (.error e)) = some (some e) := if_pos rfl
      rw [Option.none_or, List.findSome?_cons, he]
      exact ⟨e, rfl⟩
    | some x =>
      cases x with
      | none =>
        obtain ⟨r, hr, hx⟩ := List.exists_of_findSome?_eq_some hl
        exact (hlater r hr (resets_iff.mpr hx)).elim
      | some e' => exact ⟨e', rfl⟩

end UnitReport

namespace ListState

open UnitReport

variable {id : Id .client} {r : UnitReport} {h : List UnitReport} {l : ListState UnitOption}

theorem hear_of_job_ne (hr : r.job ≠ id) (hb : r.job.isBlank = false) : l.hear id r = l := by
  cases r with
  | begun k => exact (if_neg (Bool.eq_false_iff.mp hb)).trans (if_neg hr)
  | ended k x => exact (if_neg (Bool.eq_false_iff.mp hb)).trans (if_neg hr)

theorem foldr_hear_of_job_ne (hr : ∀ r ∈ h, r.job ≠ id ∧ r.job.isBlank = false) : h.foldr (hear id) l = l := by
  induction h with
  | nil => rfl
  | cons r h ih =>
    obtain ⟨hne, hb⟩ := hr r List.mem_cons_self
    rw [List.foldr_cons, hear_of_job_ne hne hb]
    exact ih fun r' hr' ↦ hr r' (List.mem_cons_of_mem _ hr')

variable (hid : id.isBlank = false)
include hid

theorem items_hear : (l.hear id r).items = (items? id r).getD l.items := by
  cases r with
  | begun k =>
    simp only [hear, items?, outcome?]
    split
    · rfl
    · split <;> rfl
  | ended k x =>
    by_cases hk : k = id
    · subst hk
      simp only [hear, items?, outcome?, if_neg (Bool.eq_false_iff.mp hid), if_pos]
      cases x <;> rfl
    · simp only [hear, items?, outcome?, if_neg hk]
      split <;> rfl

theorem error_hear : (l.hear id r).error = (error? id r).getD l.error := by
  cases r with
  | begun k =>
    simp only [hear, error?]
    split
    · rfl
    · split <;> rfl
  | ended k x =>
    by_cases hk : k = id
    · subst hk
      simp only [hear, if_neg (Bool.eq_false_iff.mp hid), if_pos]
      cases x with
      | ok items => rfl
      | error e => rw [error?, if_pos rfl]; rfl
    · have he : error? id (.ended k x) = none := error?_of_outcome? (if_neg hk) nofun
      rw [he, hear, if_neg hk]
      split <;> rfl

theorem items_foldr_hear : (h.foldr (hear id) l).items = (h.findSome? (items? id)).getD l.items := by
  induction h with
  | nil => rfl
  | cons r h ih =>
    rw [List.foldr_cons, items_hear hid, ih, List.findSome?_cons]
    cases items? id r <;> rfl

theorem error_foldr_hear : (h.foldr (hear id) l).error = (h.findSome? (error? id)).getD l.error := by
  induction h with
  | nil => rfl
  | cons r h ih =>
    rw [List.foldr_cons, error_hear hid, ih, List.findSome?_cons]
    cases error? id r <;> rfl

/-- A client's list is loading only while the last that was heard of it is that a fetch began. -/
theorem find?_of_loading (hl : l.loading = false) (h' : (h.foldr (hear id) l).loading = true) :
    h.find? (·.job = id) = some (.begun id) := by
  induction h with
  | nil => cases hl.symm.trans h'
  | cons r h ih =>
    rw [List.foldr_cons] at h'
    rw [List.find?_cons]
    by_cases hr : r.job = id
    · rw [decide_eq_true hr]
      cases r with
      | begun k => exact congrArg (fun i ↦ some (Report.begun i)) hr
      | ended k x =>
        obtain rfl : k = id := hr
        rw [hear, if_neg (Bool.eq_false_iff.mp hid), if_pos rfl] at h'
        cases x <;> cases h'
    · rw [decide_eq_false hr]
      refine ih ?_
      cases hb : r.job.isBlank with
      | false => rwa [hear_of_job_ne hr hb] at h'
      | true =>
        cases r with
        | begun k =>
          replace hb : k.isBlank = true := hb
          rw [hear, if_pos hb] at h'
          cases h'
        | ended k x =>
          replace hb : k.isBlank = true := hb
          rwa [hear, if_pos hb] at h'

end ListState

namespace UnitFetches

open UnitReport

variable {c : Console} {h : List UnitReport} {q : UnitFetches} {id : Id .client}

def Idle (q : UnitFetches) (id : Id .client) : Prop := ∀ m ∈ q.members, m.job = id → ¬m.UnderWay

theorem not_begun_of_idle (hq : Pool.Heard unitFetches (.empty c) h q) (hidle : Idle q id)
    {later earlier : List UnitReport} (hh : h = later ++ earlier) (hlater : ∀ r ∈ later, outcome? id r = none) :
    .begun id ∉ later := by
  intro hmem
  have hsome : (later.find? (·.job = id)).isSome = true :=
    List.find?_isSome.mpr ⟨_, hmem, decide_eq_true (rfl : (Report.begun id : UnitReport).job = id)⟩
  obtain ⟨r, hr⟩ := Option.isSome_iff_exists.mp hsome
  have hbegun : r = .begun id := by
    have hfound := List.find?_some hr
    have hjob : r.job = id := of_decide_eq_true hfound
    cases r with
    | begun k => exact congrArg Report.begun hjob
    | ended k x =>
      obtain rfl : k = id := hjob
      have hnone := hlater _ (List.mem_of_find?_eq_some hr)
      rw [outcome?, if_pos rfl] at hnone
      cases hnone
  have hfind : h.find? (·.job = id) = some (.begun id) := by
    rw [hh, List.find?_append]
    exact hbegun ▸ congrArg (Option.or · _) hr
  obtain ⟨m, hm, hj, hu⟩ := hq.exists_underWay hfind
  exact hidle m hm hj hu

theorem units_of_heard (hc : ClientsInOrder c.context.units) (hq : Pool.Heard unitFetches (.empty c) h q)
    (id : Id .client) :
    ClientsInOrder q.share.state.context.units ∧
      q.share.state.context.units.list id = h.foldr (ListState.hear id) (c.context.units.list id) := by
  have hunits : q.share.state.context.units = h.foldr UnitCache.hear c.context.units := audible.part_eq hq
  rw [hunits]
  exact UnitCache.list_foldr_hear hc id h

theorem list_of_go (hc : ClientsInOrder c.context.units) (hq : Pool.Heard unitFetches (.empty c) h q)
    {n : Nat} {m m' : UnitFetcher} {t : Turn} {s : Share Gate Console} (hm : q.members[n]? = some m)
    (hg : m.go t q.share = some (m', s)) (id : Id .client) : s.state.context.units.list id =
      (m.reports m').foldr (ListState.hear id) (q.share.state.context.units.list id) := by
  obtain ⟨-, hs⟩ := audible.turn (audible.stands hq m (List.mem_of_getElem? hm)) hg
  rw [hs]
  exact (UnitCache.list_foldr_hear (units_of_heard hc hq id).1 id _).2

theorem items_of_reports {m m' : UnitFetcher} (hb : m.job.isBlank = false)
    (hfail : ∀ items, m'.result? ≠ some (.ok items)) : (m.reports m').findSome? (items? id) = none := by
  refine List.findSome?_eq_none_iff.mpr fun r hr ↦ ?_
  rcases Member.mem_reports hr with rfl | ⟨x, hx, rfl⟩
  · rw [items?, outcome?, if_neg (Bool.eq_false_iff.mp hb)]
    rfl
  · cases x with
    | ok items => exact (hfail items hx).elim
    | error e =>
      rw [items?, outcome?]
      split <;> rfl

theorem error_of_failed (hq : Pool.Heard unitFetches (.empty c) h q) (hidle : Idle q id) {e : ClientError}
    (he : h.findSome? (outcome? id) = some (.error e)) : h.findSome? (error? id) = some (some e) := by
  obtain ⟨later, r, earlier, hh, hr, hlater⟩ := List.findSome?_eq_some_iff.mp he
  have hnot := not_begun_of_idle hq hidle hh hlater
  refine List.findSome?_eq_some_iff.mpr ⟨later, r, earlier, hh, ?_, fun r' hr' ↦ ?_⟩
  · rw [eq_ended_of_outcome? hr]
    exact if_pos rfl
  · refine error?_of_outcome? (hlater r' hr') ?_
    rintro rfl
    exact hnot hr'

/-- Once a fetch of a client has ended, it was heard whether there is an error. -/
theorem exists_error?_of_outcome? (hq : Pool.Heard unitFetches (.empty c) h q) {x : Loaded UnitOption}
    (hx : h.findSome? (outcome? id) = some x) : ∃ e, h.findSome? (error? id) = some e := by
  rw [← Option.ne_none_iff_exists']
  intro hnone
  rw [List.findSome?_eq_none_iff] at hnone
  have hresets : ∀ r ∈ h, ¬Resets id r := fun r hr hres ↦ by cases (hnone r hr).symm.trans (resets_iff.mp hres)
  obtain ⟨r, hr, ho⟩ := List.exists_of_findSome?_eq_some hx
  cases r with
  | begun k =>
    rw [outcome?, Option.ite_none_right_eq_some] at ho
    exact hresets _ hr (.inl ho.1)
  | ended k y =>
    rw [outcome?, Option.ite_none_right_eq_some] at ho
    obtain ⟨rfl, -⟩ := ho
    exact hresets _ (hq.begun_mem hr) (.inr rfl)

/-- What is kept for a client beside any fetches, of any clients and in any order. The items are those of the fetch
of it that succeeded last, and the error is that of the one that failed last, if none began since; all is as at first
where nothing was heard that says otherwise. While no fetch of it is under way it is not loading, and the error is that
of the one that ended last, if that failed. If that succeeded, there is no error just if after each failure another
one began. A fetch of another client changes nothing of it, and one that does not succeed no items, except that a blank
identifier clears all. Items come from the answer to a request of the fetch that brought them. -/
theorem entry_of_fetches (hc : ClientsInOrder c.context.units) (hid : id.isBlank = false)
    (hl : (c.context.units.list id).loading = false) (hq : Pool.Heard unitFetches (.empty c) h q) :
    let first := c.context.units.list id
    let entry := q.share.state.context.units.list id
    entry.items = (h.findSome? (items? id)).getD first.items ∧
    entry.error = (h.findSome? (error? id)).getD first.error ∧
    (Idle q id → entry.loading = false ∧
      (∀ e, h.findSome? (outcome? id) = some (.error e) → entry.error = some e) ∧
      ∀ items, h.findSome? (outcome? id) = some (.ok items) → (entry.error = none ↔
        ∀ later e earlier, h = later ++ .ended id (.error e) :: earlier → ∃ r ∈ later, Resets id r)) ∧
    (∀ (n : Nat) (m m' : UnitFetcher) (t : Turn) (s : Share Gate Console), q.members[n]? = some m →
      m.go t q.share = some (m', s) → m.job.isBlank = false →
      (m.job ≠ id → s.state.context.units.list id = entry) ∧
      ((∀ items, m'.result? ≠ some (.ok items)) → (s.state.context.units.list id).items = entry.items)) ∧
    ∀ m ∈ q.members, m.job = id → ∀ items, m.result? = some (.ok items) → FetchedUnits id items m.log := by
  intro first entry
  have hentry : entry = h.foldr (ListState.hear id) first := (units_of_heard hc hq id).2
  have hitems : entry.items = (h.findSome? (items? id)).getD first.items := by
    rw [hentry, ListState.items_foldr_hear hid]
  have herror : entry.error = (h.findSome? (error? id)).getD first.error := by
    rw [hentry, ListState.error_foldr_hear hid]
  refine ⟨hitems, herror, fun hidle ↦ ⟨?_, fun e he ↦ ?_, fun items hi ↦ ?_⟩, fun n m m' t s hm hg hb ↦ ?_,
    fun m hm hj items hr ↦ ?_⟩
  · rw [Bool.eq_false_iff]
    intro hload
    obtain ⟨m, hm, hj, hu⟩ := hq.exists_underWay (ListState.find?_of_loading hid hl (hentry ▸ hload))
    exact hidle m hm hj hu
  · rw [herror, error_of_failed hq hidle he]
    rfl
  · obtain ⟨x, hx⟩ := exists_error?_of_outcome? hq hi
    have hkept : entry.error = none ↔ ¬∃ e, h.findSome? (error? id) = some (some e) := by
      rw [herror, hx]
      cases x <;> simp
    rw [hkept, error_kept_iff]
    push Not
    rfl
  · have hnext := list_of_go hc hq hm hg id
    refine ⟨fun hne ↦ hnext.trans (ListState.foldr_hear_of_job_ne fun r hr ↦ ?_), fun hfail ↦ ?_⟩
    · rw [Member.job_of_reports hr]
      exact ⟨hne, hb⟩
    · rw [hnext, ListState.items_foldr_hear hid, items_of_reports hb hfail]
      rfl
  · obtain rfl := hj
    exact fetched_of_result hq hm hid hr

instance (m : UnitFetcher) : Decidable m.UnderWay :=
  decidable_of_iff (m.strand.begun = true ∧ m.result? = none) ⟨fun h ↦ ⟨h.1, h.2⟩, fun h ↦ ⟨h.1, h.2⟩⟩

instance (q : UnitFetches) (id : Id .client) : Decidable (Idle q id) :=
  inferInstanceAs (Decidable (∀ m ∈ q.members, m.job = id → ¬m.UnderWay))

instance : DecidablePred unitFetches.admits := fun _ ↦ inferInstanceAs (Decidable True)

instance (rs : List Record) (r : Record) : DecidablePred (unitFetches.allows rs r) :=
  fun _ ↦ inferInstanceAs (Decidable True)

/-- Two fetches of the units of one client are under way, the first one fails and then the second one succeeds. The
error of the first one stays. -/
theorem entry_of_fetches_of_late_success :
    let host : Host := ⟨.empty .memory, ⟨0⟩, fun _ ↦ ⟨List.replicate 32 0, rfl⟩, 0⟩
    let c : Console := ⟨.blank host, .fresh (.ofBase "http://h") "host"⟩
    let id : Id .client := ⟨"c1"⟩
    let north : UnitOption := ⟨⟨"b1"⟩, "North"⟩
    let refused : ClientError := .api 503 "Service Unavailable"
    ∃ q, Pool.Heard unitFetches (.empty c)
        [.ended id (.ok [north]), .ended id (.error refused), .begun id, .begun id] q ∧ Idle q id ∧
      (q.share.state.context.units.list id).items = [north] ∧
      (q.share.state.context.units.list id).loading = false ∧
      (q.share.state.context.units.list id).error = some refused := by
  intro host c id north refused
  let answer := "\x7b\"success\":true,\"message\":\"\",\"data\":[\x7b\"_id\":\"b1\",\"name\":\"North\"\x7d]\x7d"
  obtain ⟨h, q, hq, rfl, hidle⟩ : ∃ h q, Pool.Heard unitFetches (.empty c) h q ∧
      h = [.ended id (.ok [north]), .ended id (.error refused), .begun id, .begun id] ∧ Idle q id :=
    Pool.exists_heard_of_listen [.join id, .join id, .turn 0 .start, .turn 1 .start, .turn 0 (.receive 503 ""),
      .turn 1 (.receive 200 answer)] (by decide +kernel)
  have horder : ClientsInOrder c.context.units := List.Pairwise.nil
  obtain ⟨hitems, herror, hsettled, -⟩ := entry_of_fetches horder (by decide : id.isBlank = false) rfl hq
  exact ⟨q, hq, hidle, hitems, (hsettled hidle).1, herror⟩

end UnitFetches

end Backoffice
