import Backoffice.Proofs.Task.Frame

namespace Backoffice

/-- What is heard of a task: that it begins, or what it comes to. -/
inductive Report (ι α : Type) where
  | begun (job : ι)
  | ended (job : ι) (a : α)
  deriving DecidableEq

def Report.job {ι α : Type} : Report ι α → ι
  | begun job => job
  | ended job _ => job

variable {ι γ σ π α : Type}

namespace Member

def reports (m m' : Member ι γ σ α) : List (Report ι α) :=
  (m'.result?.map (Report.ended m.job)).toList ++ if m.strand.begun then [] else [.begun m.job]

structure UnderWay (m : Member ι γ σ α) : Prop where
  begun : m.strand.begun = true
  unresolved : m.result? = none

theorem mem_reports {m m' : Member ι γ σ α} {r : Report ι α} (h : r ∈ m.reports m') :
    r = .begun m.job ∨ ∃ a, m'.result? = some a ∧ r = .ended m.job a := by
  rcases List.mem_append.mp h with h | h
  · obtain ⟨a, ha, rfl⟩ := Option.map_eq_some_iff.mp (Option.mem_toList.mp h)
    exact .inr ⟨a, ha, rfl⟩
  · split at h
    · cases h
    · exact .inl (List.mem_singleton.mp h)

theorem job_of_reports {m m' : Member ι γ σ α} {r : Report ι α} (h : r ∈ m.reports m') : r.job = m.job := by
  rcases mem_reports h with rfl | ⟨a, -, rfl⟩ <;> rfl

theorem reports_of_result {m m' : Member ι γ σ α} {a : α} (h : m'.result? = some a) :
    m.reports m' = .ended m.job a :: if m.strand.begun then [] else [.begun m.job] := by
  rw [reports, h]
  rfl

end Member

theorem Pool.mem_turned {p : Pool ι γ σ α} {n : Nat} {m m' w : Member ι γ σ α} {s : Share γ σ}
    (hm : p.members[n]? = some m) (hw : w ∈ p.members) (hne : w.job ≠ m.job) : w ∈ (p.turned n m' s).members := by
  obtain ⟨i, hi⟩ := List.mem_iff_getElem?.mp hw
  have hin : i ≠ n := by
    rintro rfl
    obtain rfl := Option.some.inj (hi.symm.trans hm)
    exact hne rfl
  refine List.mem_iff_getElem?.mpr ⟨i, ?_⟩
  rw [getElem?_turned hm, if_neg hin]
  exact hi

variable [DecidableEq γ]

theorem Strand.begun_of_go {st st' : Strand γ σ α} {t : Turn} {s s' : Share γ σ}
    (h : st.go t s = some (st', s')) : st'.begun = true := by
  have of_park {u : Task γ σ α} {s₀ : Share γ σ} (he : some (u.park s₀) = some (st', s')) : st'.begun = true := by
    have hb := u.park_begun s₀
    rwa [Option.some.inj he] at hb
  unfold go at h
  split at h
  · exact of_park h
  · exact of_park h
  · rw [Option.ite_none_left_eq_some] at h
    exact of_park h.2
  · exact of_park h
  · obtain ⟨x, -, hx⟩ := Option.map_eq_some_iff.mp h
    exact (Prod.mk.inj hx).1 ▸ rfl
  · obtain ⟨x, -, hx⟩ := Option.map_eq_some_iff.mp h
    exact (Prod.mk.inj hx).1 ▸ rfl
  · cases h

namespace Member

variable {m m' : Member ι γ σ α} {t : Turn} {s s' : Share γ σ}

theorem job_of_go (h : m.go t s = some (m', s')) : m'.job = m.job := by
  obtain ⟨x, -, hx⟩ := Option.map_eq_some_iff.mp h
  exact (Prod.mk.inj hx).1 ▸ rfl

theorem begun_of_go (h : m.go t s = some (m', s')) : m'.strand.begun = true := by
  obtain ⟨x, hg, hx⟩ := Option.map_eq_some_iff.mp h
  exact (Prod.mk.inj hx).1 ▸ Strand.begun_of_go hg

end Member

namespace Pool

variable {S : Setting ι γ σ α} {p q : Pool ι γ σ α} {h : List (Report ι α)}

/-- What is heard in a run, the latest first. -/
inductive Heard (S : Setting ι γ σ α) (p : Pool ι γ σ α) : List (Report ι α) → Pool ι γ σ α → Prop
  | start : Heard S p [] p
  | join {h : List (Report ι α)} {q : Pool ι γ σ α} (hh : Heard S p h q) (job : ι) (hj : S.admits job) :
      Heard S p h { q with members := q.members ++ [⟨job, [], .ready (S.task job)⟩] }
  | turn {h : List (Report ι α)} {q : Pool ι γ σ α} (hh : Heard S p h q) {n : Nat} {m m' : Member ι γ σ α} {t : Turn}
      {s : Share γ σ} (hm : q.members[n]? = some m) (ha : S.allows q.records m.record t)
      (hg : m.go t q.share = some (m', s)) : Heard S p (m.reports m' ++ h) (q.turned n m' s)
  | pass {h : List (Report ι α)} {q : Pool ι γ σ α} (hh : Heard S p h q) {state : σ}
      (hp : S.passes q.share.state state) : Heard S p h { q with share := { q.share with state } }

theorem Heard.later (hh : Heard S p h q) : Later S p q := by
  induction hh with
  | start => exact .refl
  | join _ job hj ih => exact ih.tail (.join job hj)
  | turn _ hm ha hg ih => exact ih.tail (.turned hm ha hg)
  | pass _ hp ih => exact ih.tail (.pass hp)

/-- Every run has its history, so what is said of all histories is said of all runs. -/
theorem later_iff_exists_heard : Later S p q ↔ ∃ h, Heard S p h q := by
  refine ⟨fun hl ↦ ?_, fun ⟨h, hh⟩ ↦ hh.later⟩
  induction hl with
  | refl => exact ⟨[], .start⟩
  | tail _ hst ih =>
    obtain ⟨h, hh⟩ := ih
    cases hst with
    | join job hj => exact ⟨h, hh.join job hj⟩
    | @turn s s' before after m m' t ha hg =>
      exact ⟨_, turned_split s s' before after ▸ hh.turn (getElem?_split s before after) ha hg⟩
    | pass hp => exact ⟨h, hh.pass hp⟩

/-- What holds of a task as it joins, and is kept by its turns. -/
theorem Heard.forall_members {P : Member ι γ σ α → Prop} {s : σ} (hh : Heard S (.empty s) h q)
    (hj : ∀ job, S.admits job → P ⟨job, [], .ready (S.task job)⟩)
    (ht : ∀ {m m' : Member ι γ σ α} {t s s'}, P m → m.go t s = some (m', s') → P m') : ∀ m ∈ q.members, P m := by
  induction hh with
  | start => exact fun m hm ↦ (List.not_mem_nil hm).elim
  | join _ job ha ih =>
    intro m hm
    rcases List.mem_append.mp hm with hm | hm
    · exact ih m hm
    · exact List.mem_singleton.mp hm ▸ hj job ha
  | turn _ hm _ hg ih =>
    intro w hw
    rcases List.mem_or_eq_of_mem_set hw with hw | rfl
    · exact ih w hw
    · exact ht (ih _ (List.mem_of_getElem? hm)) hg
  | pass _ _ ih => exact ih

/-- A job of which it was heard last that it began is under way. -/
theorem Heard.exists_underWay [DecidableEq ι] {s : σ} (hh : Heard S (.empty s) h q) {job : ι}
    (hb : h.find? (·.job = job) = some (.begun job)) : ∃ m ∈ q.members, m.job = job ∧ m.UnderWay := by
  induction hh with
  | start => cases hb
  | join _ j hj ih =>
    obtain ⟨w, hw, hu⟩ := ih hb
    exact ⟨w, List.mem_append_left _ hw, hu⟩
  | @turn h q _ n m m' t s hm ha hg ih =>
    by_cases hj : m.job = job
    · cases hr : m'.result? with
      | none =>
        obtain ⟨hn, -⟩ := List.getElem?_eq_some_iff.mp hm
        refine ⟨m', List.mem_set hn m', (Member.job_of_go hg).trans hj, Member.begun_of_go hg, hr⟩
      | some a =>
        have hhead : decide ((Report.ended m.job a).job = job) = true := decide_eq_true hj
        rw [Member.reports_of_result hr, List.cons_append, List.find?_cons, hhead] at hb
        cases hb
    · have hnone : (m.reports m').find? (·.job = job) = none := by
        refine List.find?_eq_none.mpr fun r hr ↦ ?_
        rw [decide_eq_true_iff, Member.job_of_reports hr]
        exact hj
      rw [List.find?_append, hnone, Option.none_or] at hb
      obtain ⟨w, hw, hwj, hu⟩ := ih hb
      exact ⟨w, mem_turned hm hw fun he ↦ hj (he.symm.trans hwj), hwj, hu⟩
  | pass _ hp ih => exact ih hb

/-- What is heard to end was heard to begin. -/
theorem Heard.begun_mem {s : σ} (hh : Heard S (.empty s) h q) {job : ι} {a : α} (he : .ended job a ∈ h) :
    .begun job ∈ h := by
  suffices hi : (∀ m ∈ q.members, m.strand.begun = true → .begun m.job ∈ h) ∧
      ∀ job a, .ended job a ∈ h → .begun job ∈ h from hi.2 job a he
  clear he
  induction hh with
  | start => exact ⟨fun m hm ↦ (List.not_mem_nil hm).elim, fun job a he ↦ (List.not_mem_nil he).elim⟩
  | join _ j hj ih =>
    refine ⟨fun m hm hb ↦ ?_, ih.2⟩
    rcases List.mem_append.mp hm with hm | hm
    · exact ih.1 m hm hb
    · rw [List.mem_singleton.mp hm] at hb
      cases hb
  | @turn h q _ n m m' t s hm ha hg ih =>
    have hself : .begun m.job ∈ m.reports m' ++ h := by
      cases hb : m.strand.begun with
      | true => exact List.mem_append_right _ (ih.1 m (List.mem_of_getElem? hm) hb)
      | false =>
        refine List.mem_append_left _ (List.mem_append_right _ ?_)
        rw [hb]
        exact List.mem_singleton_self _
    refine ⟨fun w hw hb ↦ ?_, fun job a he ↦ ?_⟩
    · rcases List.mem_or_eq_of_mem_set hw with hw | rfl
      · exact List.mem_append_right _ (ih.1 w hw hb)
      · rwa [Member.job_of_go hg]
    · rcases List.mem_append.mp he with he | he
      · obtain rfl : job = m.job := Member.job_of_reports he
        exact hself
      · exact List.mem_append_right _ (ih.2 job a he)
  | pass _ hp ih => exact ih

def told (p : Pool ι γ σ α) : Event ι → List (Report ι α)
  | .join _ => []
  | .turn n t => (p.members[n]?.bind fun m ↦ (m.go t p.share).map fun x ↦ m.reports x.1).getD []

variable (S) [DecidablePred S.admits] [∀ rs r, DecidablePred (S.allows rs r)]

def listen (x : List (Report ι α) × Pool ι γ σ α) (events : List (Event ι)) :
    Option (List (Report ι α) × Pool ι γ σ α) :=
  events.foldlM (fun x e ↦ (x.2.after S e).map fun q ↦ (x.2.told e ++ x.1, q)) x

variable {S}

theorem Heard.after (hh : Heard S p h q) {e : Event ι} {r : Pool ι γ σ α} (he : q.after S e = some r) :
    Heard S p (q.told e ++ h) r := by
  cases e with
  | join job =>
    simp only [Pool.after, Option.ite_none_right_eq_some, Option.some.injEq] at he
    obtain ⟨hj, rfl⟩ := he
    exact hh.join job hj
  | turn n t =>
    obtain ⟨before, m, rest, m', s', hq, rfl, ha, hg, rfl⟩ := after_turn he
    obtain ⟨share, members⟩ := q
    obtain rfl : members = before ++ m :: rest := congrArg Pool.members hq
    have ht : told ⟨share, before ++ m :: rest⟩ (.turn before.length t) = m.reports m' := by
      rw [told, getElem?_split, Option.bind_some, hg]
      rfl
    rw [ht, ← turned_split share s' before rest]
    exact hh.turn (getElem?_split share before rest) ha hg

theorem Heard.listen {events : List (Event ι)} {x y : List (Report ι α) × Pool ι γ σ α} (hh : Heard S p x.1 x.2)
    (hy : Pool.listen S x events = some y) : Heard S p y.1 y.2 := by
  induction events generalizing x with
  | nil =>
    cases hy
    exact hh
  | cons e events ih =>
    simp only [Pool.listen, List.foldlM_cons, Option.bind_eq_bind, Option.bind_eq_some_iff,
      Option.map_eq_some_iff] at hy
    obtain ⟨_, ⟨q, hq, rfl⟩, hy⟩ := hy
    exact ih (hh.after hq) hy

theorem exists_heard_of_listen (events : List (Event ι)) {P : List (Report ι α) → Pool ι γ σ α → Prop}
    [∀ h, DecidablePred (P h)] (hp : (listen S ([], p) events).any (fun x ↦ decide (P x.1 x.2)) = true) :
    ∃ h q, Heard S p h q ∧ P h q := by
  cases hl : listen S ([], p) events with
  | none => simp [hl] at hp
  | some x =>
    rw [hl] at hp
    exact ⟨x.1, x.2, Heard.listen .start hl, of_decide_eq_true hp⟩

end Pool

/-- Tasks stand as `P` says, and in a turn of one a part of the state becomes what `hear` makes of it by what is heard
of the task then. -/
structure Audible (S : Setting ι γ σ α) (part : σ → π) (hear : Report ι α → π → π) (P : Member ι γ σ α → Prop) :
    Prop where
  join : ∀ job, S.admits job → P ⟨job, [], .ready (S.task job)⟩
  turn : ∀ {m m' t s s'}, P m → m.go t s = some (m', s') →
    P m' ∧ part s'.state = (m.reports m').foldr hear (part s.state)
  pass : ∀ {s s'}, S.passes s s' → part s' = part s

namespace Audible

variable {S : Setting ι γ σ α} {part : σ → π} {hear : Report ι α → π → π} {P : Member ι γ σ α → Prop}
  (ha : Audible S part hear P) {s : σ} {h : List (Report ι α)} {q : Pool ι γ σ α}
include ha

theorem stands (hh : Pool.Heard S (.empty s) h q) : ∀ m ∈ q.members, P m :=
  hh.forall_members ha.join fun hp hg ↦ (ha.turn hp hg).1

theorem part_eq (hh : Pool.Heard S (.empty s) h q) : part q.share.state = h.foldr hear (part s) := by
  induction hh with
  | start => rfl
  | join _ _ _ ih => exact ih
  | turn hh hm _ hg ih =>
    rw [List.foldr_append, ← ih]
    exact (ha.turn (ha.stands hh _ (List.mem_of_getElem? hm)) hg).2
  | pass _ hp ih => exact (ha.pass hp).trans ih

end Audible

end Backoffice
