import Backoffice.Proofs.Client.Errand

namespace Backoffice

open Web (Request Outcome)
open Console (settled)

attribute [local irreducible] Routes.ofBase

/-- Time takes tokens away but brings none. -/
theorem Sight.Ages.credential {k : Clock} {s s' : Sight} (h : s.Ages k s') {c' : Credential}
    (hc : s'.credential = some c') :
    ∃ c, s.credential = some c ∧ c'.access = c.access ∧
      ∀ t, c'.refresh = some t → c.refresh = some t := by
  obtain ⟨ha, hr, -⟩ := Sight.credential_eq_some hc
  have ht : ∀ {name t}, s'.token name = some t → s.token name = some t := by
    intro name t hn
    rcases h.cookies name with hs | ⟨-, hs⟩
    · rwa [Sight.token, hs] at hn
    · rw [Sight.token, hs] at hn
      cases hn
  refine ⟨⟨c'.access, s.token Profile.refreshCookie, .ofRemember s.remembers⟩, ?_, rfl, fun t he ↦ ?_⟩
  · rw [Sight.credential, ht ha]
    rfl
  · exact ht (hr.trans he)

theorem Sight.Ages.credential_none {k : Clock} {s s' : Sight} (h : s.Ages k s')
    (hc : s.credential = none) : s'.credential = none := by
  rw [Option.eq_none_iff_forall_not_mem]
  intro c' hc'
  obtain ⟨c, hs, -⟩ := h.credential hc'
  cases hc.symm.trans hs

structure Console.Ticks (k : Clock) (c d : Console) : Prop where
  host : c.profile.host.Ticks k d.profile.host
  only_host : d = { c with profile := { c.profile with host := d.profile.host } }

namespace Console.Ticks

variable {k : Clock} {c d : Console}

theorem ages (h : c.Ticks k d) : c.view.sight.Ages k d.view.sight := by
  rw [h.only_host]
  exact h.host.ages c.profile.cookies c.profile.session

theorem context_eq (h : c.Ticks k d) : d.context = c.context := by rw [h.only_host]

theorem reliable (h : c.Ticks k d) (hc : c.Reliable) : d.Reliable := by
  have hd : d.profile.host.durable = c.profile.host.durable := by rw [h.host.only_now]
  simpa only [Console.Reliable, Profile.Reliable, hd] using hc

end Console.Ticks

/-- Which tasks a client is given, which turns they may take, and whether its cookies may expire. -/
structure Rules where
  admits : Job → Prop
  allows : List Record → Record → Turn → Prop
  clock : Clock

def Rules.setting (R : Rules) : Setting Job Gate Console Reply where
  task := Job.task
  admits := R.admits
  allows := R.allows
  passes := Console.Ticks R.clock

abbrev Crowd := Pool Job Gate Console Reply

structure Errand where
  job : Job
  log : List Exchange
  phase : Phase

namespace Errand

def start (j : Job) : Errand := ⟨j, [], .ready j⟩

def record (e : Errand) : Record := ⟨e.log, e.phase.request?.toList⟩

def member (e : Errand) : Member Job Gate Console Reply := ⟨e.job, e.log, e.phase.strand⟩

def next (e : Errand) (t : Turn) (p : Phase) : Errand :=
  { e with log := (e.phase.exchange? t).toList ++ e.log, phase := p }

theorem record_member (e : Errand) : e.member.record = e.record := by
  simp only [Member.record, member, record, Phase.strand_underway]

end Errand

structure Traffic where
  view : View
  held : List Gate
  errands : List Errand

namespace Traffic

def records (tr : Traffic) : List Record := tr.errands.map Errand.record

inductive Step (R : Rules) : Traffic → Traffic → Prop
  | join {v : View} {held : List Gate} {errands : List Errand} (j : Job) (hj : R.admits j) :
      Step R ⟨v, held, errands⟩ ⟨v, held, errands ++ [.start j]⟩
  | turn {v v' : View} {held held' : List Gate} {before after : List Errand} {e : Errand} {t : Turn}
      {p : Phase} (ha : R.allows (records ⟨v, held, before ++ e :: after⟩) e.record t)
      (hg : e.phase.Goes v held t (p, v') held') :
      Step R ⟨v, held, before ++ e :: after⟩ ⟨v', held', before ++ e.next t p :: after⟩
  | pass {v : View} {s : Sight} {held : List Gate} {errands : List Errand}
      (hs : v.sight.Ages R.clock s) :
      Step R ⟨v, held, errands⟩ ⟨⟨s, v.context⟩, held, errands⟩

abbrev Later (R : Rules) : Traffic → Traffic → Prop := Relation.ReflTransGen (Step R)

end Traffic

structure View.Abides (v v' : View) : Prop where
  now : v'.sight.now = v.sight.now
  config : v'.context.config = v.context.config

theorem View.Abides.trans {v v' v'' : View} (h : v.Abides v') (h' : v'.Abides v'') : v.Abides v'' :=
  ⟨h'.now.trans h.now, h'.config.trans h.config⟩

theorem View.Abides.routes {v v' : View} (h : v.Abides v') : v'.context.routes = v.context.routes := by
  rw [Context.routes, h.config]
  rfl

theorem Stage.Goes.abides {c : Call} {s : Stage} {v v' : View} {held held' : List Gate} {t : Turn}
    {on : Onward} (h : s.Goes c v held t on v' held') : v.Abides v' := by
  cases h with
  | answered | refused | replaced | retried => exact ⟨rfl, rfl⟩
  | unrefreshable | unrenewed => exact ⟨rfl, rfl⟩
  | unsent | renewing => exact ⟨v.sight.now_identified, rfl⟩
  | renewed => exact ⟨v.sight.now_writeTokens _ _, rfl⟩

theorem Onward.abides_enter (a : Aim) (c : Call) (v : View) (on : Onward) :
    v.Abides (on.enter a c v).2 := by
  cases on with
  | waits s => exact ⟨rfl, rfl⟩
  | ended x =>
    cases a with
    | answer => exact ⟨rfl, rfl⟩
    | session =>
      simp only [Onward.enter, Aim.close]
      split <;> exact ⟨rfl, rfl⟩

theorem abides_left (v : View) : v.Abides (left v) := by
  refine ⟨rfl, ?_⟩
  simp only [left, settled, Context.observed]
  split <;> rfl

theorem Phase.Goes.abides {p : Phase} {q : Phase × View} {v : View} {held held' : List Gate}
    {t : Turn} (h : p.Goes v held t q held') : v.Abides q.2 := by
  cases h with
  | asks => exact Onward.abides_enter _ _ v _
  | inquires hs => exact hs.abides.trans (Onward.abides_enter _ _ _ _)
  | knocks | unsent => exact ⟨v.sight.now_identified, rfl⟩
  | rejected => exact ⟨rfl, rfl⟩
  | leaves => exact abides_left v
  | @granted remember payload _ _ pair =>
    have hs : v.Abides ⟨v.sight.setCredential pair remember (some payload), v.context⟩ :=
      ⟨v.sight.now_setCredential pair remember _, rfl⟩
    exact hs.trans (Onward.abides_enter _ _ _ _)

def Phase.isRenewing : Phase → Bool
  | inquiring _ _ (.renewing _ _) => true
  | _ => false

theorem Onward.isRenewing_enter {a : Aim} {c d : Call} {v : View} {s : Request → Stage}
    (hs : ∀ r, (Phase.inquiring a c (s r)).isRenewing = false) :
    ((Onward.calling d s).enter a c v).1.isRenewing = false := by
  simp only [Onward.calling]
  split
  · next r hr => exact hs r
  · rfl

/-- A task takes the lock when it begins to renew tokens, and gives it back when that is over. -/
theorem Phase.Goes.lock {p : Phase} {q : Phase × View} {v : View} {held held' : List Gate} {t : Turn}
    (h : p.Goes v held t q held') :
    p.isRenewing = false ∧ q.1.isRenewing = false ∧ held' = held ∨
    p.isRenewing = false ∧ q.1.isRenewing = true ∧ Gate.refresh ∉ held ∧
      held' = .refresh :: held ∨
    p.isRenewing = true ∧ q.1.isRenewing = false ∧ held' = held.erase .refresh := by
  cases h with
  | asks => exact .inl ⟨rfl, Onward.isRenewing_enter fun _ ↦ rfl, rfl⟩
  | knocks | unsent | rejected | leaves => exact .inl ⟨rfl, rfl, rfl⟩
  | granted => exact .inl ⟨rfl, Onward.isRenewing_enter fun _ ↦ rfl, rfl⟩
  | inquires hs =>
    cases hs with
    | answered | refused | unrefreshable | unsent | retried => exact .inl ⟨rfl, rfl, rfl⟩
    | replaced => exact .inl ⟨rfl, Onward.isRenewing_enter fun _ ↦ rfl, rfl⟩
    | renewing hg => exact .inr (.inl ⟨rfl, rfl, hg, rfl⟩)
    | unrenewed => exact .inr (.inr ⟨rfl, rfl, rfl⟩)
    | renewed => exact .inr (.inr ⟨rfl, Onward.isRenewing_enter fun _ ↦ rfl, rfl⟩)

namespace Traffic

structure Locked (tr : Traffic) : Prop where
  held : tr.held = [] ∨ tr.held = [.refresh]
  renewing : (tr.errands.countP fun e ↦ e.phase.isRenewing) = tr.held.length

namespace Locked

variable {R : Rules} {tr tr' : Traffic} {v : View} {held : List Gate} {errands : List Errand}

theorem eq_nil (h : tr.Locked) (hg : Gate.refresh ∉ tr.held) : tr.held = [] := by
  rcases h.held with hh | hh
  · exact hh
  · rw [hh] at hg
    exact absurd (List.mem_singleton_self _) hg

theorem eq_refresh (h : tr.Locked) {e : Errand} (he : e ∈ tr.errands)
    (hr : e.phase.isRenewing = true) : tr.held = [.refresh] := by
  rcases h.held with hh | hh
  · have hn := h.renewing
    rw [hh, List.length_nil, List.countP_eq_zero] at hn
    exact absurd hr (hn e he)
  · exact hh

theorem step (h : tr.Locked) (hs : tr.Step R tr') : tr'.Locked := by
  cases hs with
  | join j hj =>
    refine ⟨h.held, ?_⟩
    rw [List.countP_append, List.countP_singleton]
    exact h.renewing
  | pass hs => exact ⟨h.held, h.renewing⟩
  | @turn v v' held held' before after e t p ha hg =>
    let f : Errand → Bool := fun e ↦ e.phase.isRenewing
    have hn : before.countP f + (after.countP f + if f e then 1 else 0) = held.length := by
      rw [← List.countP_cons, ← List.countP_append]
      exact h.renewing
    have hgoal : (before ++ e.next t p :: after).countP f =
        before.countP f + (after.countP f + if p.isRenewing then 1 else 0) := by
      rw [List.countP_append, List.countP_cons]
      rfl
    rcases hg.lock with ⟨hp, hq, rfl⟩ | ⟨hp, hq, hr, rfl⟩ | ⟨hp, hq, rfl⟩
    · refine ⟨h.held, hgoal.trans ?_⟩
      simp only [f, hp] at hn
      rwa [hq]
    · have hnil : held = [] := h.eq_nil hr
      subst hnil
      refine ⟨.inr rfl, hgoal.trans ?_⟩
      simp only [f, hp, Bool.false_eq_true, if_false] at hn
      rw [hq, if_pos rfl]
      exact congrArg Nat.succ hn
    · have hlock : held = [.refresh] :=
        h.eq_refresh (e := e) (List.mem_append_right _ List.mem_cons_self) hp
      subst hlock
      refine ⟨.inl rfl, hgoal.trans ?_⟩
      simp only [f, hp, if_true] at hn
      rw [hq, if_neg Bool.false_ne_true]
      exact Nat.succ.inj hn

end Locked

end Traffic

namespace Pool

/-- What a pool shows, on a store that refuses nothing and at a time that can be counted from. -/
structure Shows (p : Crowd) (tr : Traffic) : Prop where
  reliable : p.share.state.Reliable
  timely : p.share.state.profile.host.Timely
  view : p.share.state.view = tr.view
  held : p.share.held = tr.held
  members : p.members = tr.errands.map Errand.member

variable {R : Rules} {p q : Crowd} {tr : Traffic}

theorem Shows.records (h : p.Shows tr) : p.records = tr.records := by
  simp only [Pool.records, h.members, Traffic.records, List.map_map]
  exact List.map_congr_left fun e _ ↦ e.record_member

theorem shows_empty {c : Console} (hc : c.Reliable) (ht : c.profile.host.Timely) :
    (Pool.empty c : Crowd).Shows ⟨c.view, [], []⟩ := ⟨hc, ht, rfl, rfl, rfl⟩

theorem Shows.turn {s s' : Share Gate Console} {before after : List (Member Job Gate Console Reply)}
    {m m' : Member Job Gate Console Reply} {t : Turn} {v : View} {held : List Gate}
    {errands : List Errand} (h : Shows ⟨s, before ++ m :: after⟩ ⟨v, held, errands⟩)
    (hg : m.go t s = some (m', s')) :
    ∃ eb e ea p' v' held', errands = eb ++ e :: ea ∧ eb.length = before.length ∧ e.member = m ∧
      e.phase.Goes v held t (p', v') held' ∧
      Shows ⟨s', before ++ m' :: after⟩ ⟨v', held', eb ++ e.next t p' :: ea⟩ := by
  obtain ⟨hc, ht, hv, hh, hm⟩ := h
  obtain ⟨eb, er, rfl, rfl, her⟩ := List.map_eq_append_iff.mp hm.symm
  obtain ⟨e, ea, rfl, rfl, rfl⟩ := List.map_eq_cons_iff.mp her
  simp only [Member.go, Option.map_eq_some_iff, Prod.mk.injEq] at hg
  obtain ⟨x, hx, rfl, rfl⟩ := hg
  obtain ⟨state, held'⟩ := s
  subst hh hv
  obtain ⟨p', c', g, hgo, hc', rfl⟩ := Phase.go_goes hc ht hx
  refine ⟨eb, e, ea, p', c'.view, g, rfl, List.length_map _ |>.symm, rfl, hgo, hc', ?_, rfl, rfl, ?_⟩
  · have hn : c'.profile.host.now = state.profile.host.now := hgo.abides.now
    simpa only [Host.Timely, hn] using ht
  · simp only [List.map_append, List.map_cons, Errand.member, Errand.next, Phase.strand_exchange?]

theorem Shows.getElem? (h : p.Shows tr) (n : Nat) :
    p.members[n]? = tr.errands[n]?.map Errand.member := by
  rw [h.members, List.getElem?_map]

theorem Shows.after [DecidablePred R.setting.admits] [∀ rs r, DecidablePred (R.setting.allows rs r)]
    (h : p.Shows tr) {n : Nat} {t : Turn} (ha : p.after R.setting (.turn n t) = some q) {e : Errand}
    (he : tr.errands[n]? = some e) :
    ∃ before after p' v' held', tr.errands = before ++ e :: after ∧ before.length = n ∧
      R.allows tr.records e.record t ∧ e.phase.Goes tr.view tr.held t (p', v') held' ∧
      q.Shows ⟨v', held', before ++ e.next t p' :: after⟩ := by
  obtain ⟨mb, m, ma, m', s', hp, hn, hr, hg, rfl⟩ := after_turn ha
  have hs : Shows ⟨p.share, mb ++ m :: ma⟩ tr := hp ▸ h
  obtain ⟨before, e', after, p', v', held', hes, hl, rfl, hgo, hq⟩ := hs.turn hg
  have hl : before.length = n := hl.trans hn
  have hee : e' = e := by
    rw [hes, ← hl, List.getElem?_append_right (Nat.le_refl _), Nat.sub_self] at he
    exact Option.some.inj he
  subst hee
  rw [h.records, e'.record_member] at hr
  exact ⟨before, after, p', v', held', hes, hl, hr, hgo, hq⟩

theorem Step.shows (hs : Step R.setting p q) (h : p.Shows tr) :
    ∃ tr', q.Shows tr' ∧ tr.Step R tr' := by
  obtain ⟨v, held, errands⟩ := tr
  cases hs with
  | join j hj =>
    refine ⟨⟨v, held, errands ++ [.start j]⟩, ⟨h.reliable, h.timely, h.view, h.held, ?_⟩, .join j hj⟩
    simp only [List.map_append, h.members]
    rfl
  | @pass _ d hp =>
    have hv : p.share.state.view = v := h.view
    subst hv
    refine ⟨⟨d.view, held, errands⟩,
      ⟨hp.reliable h.reliable, hp.host.timely h.timely, rfl, h.held, h.members⟩, ?_⟩
    have hd : d.view = ⟨d.view.sight, p.share.state.view.context⟩ :=
      congrArg (View.mk d.view.sight) hp.context_eq
    rw [hd]
    exact .pass hp.ages
  | @turn s s' before after m m' t ha hg =>
    have hr := h.records
    obtain ⟨eb, e, ea, p', v', held', rfl, -, rfl, hgo, hq⟩ := h.turn hg
    refine ⟨_, hq, .turn ?_ hgo⟩
    rw [← hr, ← e.record_member]
    exact ha

theorem Later.shows (hl : Later R.setting p q) (h : p.Shows tr) :
    ∃ tr', q.Shows tr' ∧ tr.Later R tr' := by
  induction hl with
  | refl => exact ⟨tr, h, .refl⟩
  | tail _ hs ih =>
    obtain ⟨tr', h', hl⟩ := ih
    obtain ⟨tr'', h'', hs'⟩ := hs.shows h'
    exact ⟨tr'', h'', hl.tail hs'⟩

end Pool

end Backoffice
