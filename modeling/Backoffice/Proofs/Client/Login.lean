import Backoffice.Proofs.Client.Renewal

namespace Backoffice

open Web (Request Outcome)
open Console

attribute [local irreducible] Routes.ofBase

def beside : Rules where
  admits j := j.isRequest = true
  allows _ _ _ := True
  clock := .sparing

instance : DecidablePred beside.setting.admits :=
  fun j ↦ inferInstanceAs (Decidable (j.isRequest = true))

instance (rs : List Record) (r : Record) : DecidablePred (beside.setting.allows rs r) :=
  fun _ ↦ inferInstanceAs (Decidable True)

structure View.Keeps (n : Nat) (v : View) (held : List Gate) : Prop where
  le : n ≤ v.context.signOuts
  credential : v.sight.credential.isSome ↔ v.context.signOuts = n
  renewing : held ≠ [] → v.context.signOuts = n

namespace View.Keeps

variable {n : Nat} {v v' : View} {held held' : List Gate} {t : Turn}

theorem signedOut (hk : v.Keeps n held) (s : Sight) :
    (Console.signedOut ⟨s, v.context⟩).Keeps n [] where
  le := Nat.le_succ_of_le hk.le
  credential := by
    have hn : (Console.signedOut ⟨s, v.context⟩).sight.credential = none :=
      Sight.credential_clearCredential s
    rw [hn]
    refine ⟨nofun, fun he ↦ ?_⟩
    have hle := hk.le
    have he : v.context.signOuts + 1 = n := he
    omega
  renewing hne := absurd rfl hne

/-- A request that goes on forgets the credential just if it counts a sign-out. -/
theorem stage {c : Call} {s : Stage} {on : Onward} (hk : v.Keeps n held)
    (hg : s.Goes c v held t on v' held') (hh : held = [] ∨ held = [.refresh])
    (hw : ∀ token r, s = .renewing token r → held = [.refresh]) : v'.Keeps n held' := by
  have hnil : Gate.refresh ∉ held → held = [] := by
    intro hg
    rcases hh with hh | hh
    · exact hh
    · rw [hh] at hg
      exact absurd (List.mem_singleton_self _) hg
  cases hg with
  | answered | refused | replaced | retried => exact hk
  | unrefreshable hg | unsent hg =>
    rw [hnil hg]
    exact hk.signedOut _
  | renewing _ _ ht =>
    obtain ⟨d, hd, -⟩ := Option.bind_eq_some_iff.mp ht
    have hn : v.context.signOuts = n := hk.credential.mp (by rw [hd]; rfl)
    refine ⟨hk.le, ?_, fun _ ↦ hn⟩
    rw [v.sight.credential_identified]
    exact hk.credential
  | unrenewed =>
    rw [hw _ _ rfl]
    exact hk.signedOut _
  | renewed hp =>
    have hlock : held = [.refresh] := hw _ _ rfl
    have hn : v.context.signOuts = n := hk.renewing (by rw [hlock]; nofun)
    obtain ⟨hna, hnr⟩ := receivedTokens_ne hp
    refine ⟨hk.le, ?_, fun _ ↦ hn⟩
    rw [Sight.credential_writeTokens _ hna hnr]
    exact ⟨fun _ ↦ hn, fun _ ↦ rfl⟩

end View.Keeps

structure View.Follows (v v' : View) : Prop where
  status : v'.context.status = v.context.status
  seen : v'.context.seen = v.context.seen

theorem Stage.Goes.follows {c : Call} {s : Stage} {v v' : View} {held held' : List Gate} {t : Turn}
    {on : Onward} (h : s.Goes c v held t on v' held') : v.Follows v' := by
  cases h <;> exact ⟨rfl, rfl⟩

theorem Context.isAuthenticated_observed (c : Context) : c.observed.status.isAuthenticated = true ↔
    c.status.isAuthenticated = true ∧ c.seen = c.signOuts := by
  refine ⟨fun ha ↦ ?_, fun ⟨ha, hs⟩ ↦ ?_⟩
  · have hs := seen_observed ha
    unfold observed at ha hs
    split at ha
    · cases ha
    · next hn =>
      rw [if_neg hn] at hs
      exact ⟨ha, hs⟩
  · unfold observed
    rw [if_neg (by simp [hs])]
    exact ha

inductive Entering (n : Nat) (v : View) (held : List Gate) : Phase → Prop
  | waiting {c : Call} {s : Stage} (hk : v.Keeps n held) : Entering n v held (.inquiring .session c s)
  | entered (hk : v.Keeps n held) (ha : v.context.status.isAuthenticated = true)
      (hn : n ≤ v.context.seen) : Entering n v held (.ended (.signedIn (.ok true)))
  | rejected : Entering n v held (.ended (.signedIn (.ok false)))

namespace Entering

variable {n : Nat} {v v' : View} {held held' : List Gate} {t : Turn} {p : Phase} {q : Phase × View}

theorem enter (hk : v.Keeps n held) (c : Call) (on : Onward) :
    Entering n (on.enter .session c v).2 held (on.enter .session c v).1 := by
  cases on with
  | waits s => exact .waiting hk
  | ended x =>
    simp only [Onward.enter, Aim.close]
    cases currentUser x with
    | error e => exact .rejected
    | ok s => exact .entered ⟨hk.le, hk.credential, hk.renewing⟩ rfl hk.le

theorem turn (h : Entering n v held p) (hg : p.Goes v held t q held')
    (hh : held = [] ∨ held = [.refresh]) (hw : p.isRenewing = true → held = [.refresh]) :
    Entering n q.2 held' q.1 := by
  cases h with
  | waiting hk =>
    cases hg with
    | inquires hs =>
      refine enter (hk.stage hs hh fun token r he ↦ hw ?_) _ _
      rw [he]
      rfl
  | entered | rejected => cases hg

theorem beside (h : Entering n v held p) (hk : v.Keeps n held → v'.Keeps n held')
    (hf : v.Follows v') : Entering n v' held' p := by
  cases h with
  | waiting hk' => exact .waiting (hk hk')
  | entered hk' ha hn =>
    refine .entered (hk hk') ?_ ?_
    · rw [hf.status]
      exact ha
    · rw [hf.seen]
      exact hn
  | rejected => exact .rejected

theorem result (h : Entering n v held p) : p.strand.result? = none ∨
    ∃ b, p.strand.result? = some (.signedIn (.ok b)) := by
  cases h with
  | @waiting c s hk => exact .inl (by cases s <;> rfl)
  | entered => exact .inr ⟨true, rfl⟩
  | rejected => exact .inr ⟨false, rfl⟩

theorem isSome_credential (h : Entering n v held p)
    (hr : p.strand.result? ≠ some (.signedIn (.ok false))) :
    v.sight.credential.isSome ↔ v.context.signOuts = n := by
  cases h with
  | waiting hk | entered hk => exact hk.credential
  | rejected => exact absurd rfl hr

theorem of_signedIn (h : Entering n v held p)
    (hr : p.strand.result? = some (.signedIn (.ok true))) :
    v.context.status.isAuthenticated = true ∧ n ≤ v.context.seen := by
  obtain rfl := Phase.eq_ended_of_result hr
  cases h with
  | entered _ ha hn => exact ⟨ha, hn⟩

theorem authenticated (h : Entering n v held p)
    (hr : p.strand.result? = some (.signedIn (.ok true))) :
    v.context.observed.status.isAuthenticated = true ↔ v.context.seen = v.context.signOuts := by
  rw [Context.isAuthenticated_observed]
  exact and_iff_right (h.of_signedIn hr).1

theorem forgotten (h : Entering n v held p)
    (hr : p.strand.result? = some (.signedIn (.ok true))) :
    v.context.observed.status.isAuthenticated = true ∧ v.sight.credential = none ↔
      n < v.context.seen ∧ v.context.seen = v.context.signOuts := by
  have hc := h.isSome_credential (by rw [hr]; decide)
  have hn := (h.of_signedIn hr).2
  rw [h.authenticated hr, ← Option.not_isSome_iff_eq_none, hc]
  constructor
  · rintro ⟨hs, hne⟩
    exact ⟨by omega, hs⟩
  · rintro ⟨hlt, hs⟩
    exact ⟨hs, by omega⟩

end Entering

namespace Past

variable {Other : Option String → String → Prop} {routes : Routes} {c : Call} {log : List Exchange}
  {p : Phase} {v : View} {held held' : List Gate} {t : Turn} {q : Phase × View}

theorem goes (h : Past Other routes c log p) (hg : p.Goes v held t q held') :
    p.isRenewing = false ∧ q.2 = v ∧ held' = held ∨ ∃ s on, p = .inquiring .answer c s ∧
      s.Goes c v held t on q.2 held' := by
  have hs : ∀ s, p = .inquiring .answer c s → ∃ s on, p = .inquiring .answer c s ∧
      s.Goes c v held t on q.2 held' := by
    intro s he
    subst he
    cases hg with
    | @inquires _ _ _ _ _ _ _ _ on hs =>
      refine ⟨s, on, rfl, ?_⟩
      rw [enter_answer]
      exact hs
  cases h with
  | ready =>
    cases hg
    exact .inl ⟨rfl, enter_answer _, rfl⟩
  | asked | queued | renewing | retrying => exact .inr (hs _ rfl)
  | unsent | answered | unrenewed | unsendable | retried => cases hg

theorem keeps (h : Past Other routes c log p) (hg : p.Goes v held t q held')
    (hh : held = [] ∨ held = [.refresh]) (hw : p.isRenewing = true → held = [.refresh]) {n : Nat}
    (hk : v.Keeps n held) : q.2.Keeps n held' := by
  rcases h.goes hg with ⟨-, hv, rfl⟩ | ⟨s, on, rfl, hs⟩
  · rwa [hv]
  · refine hk.stage hs hh fun token r he ↦ hw ?_
    rw [he]
    rfl

theorem follows (h : Past Other routes c log p) (hg : p.Goes v held t q held') : v.Follows q.2 := by
  rcases h.goes hg with ⟨-, hv, rfl⟩ | ⟨s, on, rfl, hs⟩
  · rw [hv]
    exact ⟨rfl, rfl⟩
  · exact hs.follows

end Past

structure Beside (P : Errand → View → List Gate → Prop) (routes : Routes) (tr : Traffic) : Prop where
  routes_eq : tr.view.context.routes = routes
  locked : tr.Locked
  split : ∃ first rest, tr.errands = first :: rest ∧ P first tr.view tr.held ∧
    ∀ e ∈ rest, ∃ c, Past (fun _ _ ↦ True) routes c e.log e.phase

namespace Beside

variable {P : Errand → View → List Gate → Prop} {routes : Routes} {tr tr' : Traffic}

theorem step (h : Beside P routes tr) (hs : tr.Step beside tr')
    (hturn : ∀ {e v v' held held' t p}, P e v held → e.phase.Goes v held t (p, v') held' →
      (held = [] ∨ held = [.refresh]) → (e.phase.isRenewing = true → held = [.refresh]) →
      P (e.next t p) v' held')
    (hbeside : ∀ {e v v' held held'}, P e v held → (∀ n, v.Keeps n held → v'.Keeps n held') →
      v.Follows v' → P e v' held') : Beside P routes tr' := by
  obtain ⟨hroutes, hl, first, rest, hes, hp, hrest⟩ := h
  have hl' := hl.step hs
  cases hs with
  | @join v held errands j hj =>
    have hes : errands = first :: rest := hes
    subst hes
    refine ⟨hroutes, hl', first, rest ++ [.start j], rfl, hp, ?_⟩
    refine List.forall_mem_append.mpr ⟨hrest, List.forall_mem_singleton.mpr ?_⟩
    cases j with
    | request method url body => exact ⟨⟨method, url, none, body⟩, .ready rfl⟩
    | _ => cases hj
  | @pass v s held errands hs =>
    have hspares := hs.spares (h := .backed)
    refine ⟨hroutes, hl', first, rest, hes, hbeside hp (fun n hk ↦ ?_) ⟨rfl, rfl⟩, hrest⟩
    refine ⟨hk.le, ?_, hk.renewing⟩
    rw [hspares.eq_of_sparing rfl]
    exact hk.credential
  | @turn v v' held held' before after e t p ha hg =>
    have hw : e.phase.isRenewing = true → held = [.refresh] :=
      hl.eq_refresh (List.mem_append_right _ List.mem_cons_self)
    have hroutes' : v'.context.routes = routes := hg.abides.routes.trans hroutes
    -- The turn is that of the first task, or of a request beside it.
    cases before with
    | nil =>
      obtain ⟨rfl, rfl⟩ := List.cons.inj hes
      exact ⟨hroutes', hl', _, after, rfl, hturn hp hg hl.held hw, hrest⟩
    | cons x before =>
      obtain ⟨rfl, rfl⟩ := List.cons.inj hes
      obtain ⟨c, hpast⟩ := hrest e (List.mem_append_right _ List.mem_cons_self)
      refine ⟨hroutes', hl', x, before ++ e.next t p :: after, rfl,
        hbeside hp (fun n hk ↦ hpast.keeps hg hl.held hw hk) (hpast.follows hg),
        forall_mem_middle hrest ⟨c, ?_⟩⟩
      exact hpast.next hroutes hg (fun _ _ _ ↦ trivial) fun _ _ _ _ _ _ _ ↦ trivial

end Beside

def Errand.Early (e : Errand) : Prop :=
  e.log = [] → (∃ email password remember, e.phase = .ready (.login email password remember)) ∨
    (∃ remember payload r, e.phase = .granting remember payload r) ∨ ∃ reply, e.phase = .ended reply

theorem Errand.Early.turn {e : Errand} (h : e.Early) {v v' : View} {held held' : List Gate} {t : Turn}
    {p : Phase} (hg : e.phase.Goes v held t (p, v') held') : (e.next t p).Early := by
  intro hl
  obtain ⟨hx, hl⟩ := List.append_eq_nil_iff.mp hl
  rcases h hl with ⟨email, password, remember, hp⟩ | ⟨remember, payload, r, hp⟩ | ⟨reply, hp⟩
  · rw [hp] at hg
    cases hg with
    | knocks => exact .inr (.inl ⟨_, _, _, rfl⟩)
    | unsent => exact .inr (.inr ⟨_, rfl⟩)
  · rw [hp] at hg hx
    generalize (p, v') = q at hg
    cases hg <;> cases hx
  · rw [hp] at hg
    cases hg

def Crowd.of (c : Console) (j : Job) : Crowd := ⟨⟨c, []⟩, [⟨j, [], .ready j.task⟩]⟩

theorem Crowd.shows_of {c : Console} (hc : c.Reliable) (ht : c.profile.host.Timely) (j : Job) :
    Pool.Shows (Crowd.of c j) ⟨c.view, [], [.start j]⟩ := ⟨hc, ht, rfl, rfl, rfl⟩

namespace Beside

variable {routes : Routes} {tr tr' : Traffic} {n : Nat}

abbrev Early (routes : Routes) (tr : Traffic) : Prop := Beside (fun e _ _ ↦ e.Early) routes tr

abbrev Since (n : Nat) (routes : Routes) (tr : Traffic) : Prop :=
  Beside (fun e v held ↦ Entering n v held e.phase) routes tr

theorem start (c : Console) (email password : String) (remember : Bool) :
    Early c.context.routes ⟨c.view, [], [.start (.login email password remember)]⟩ :=
  ⟨rfl, ⟨.inl rfl, rfl⟩, _, [], rfl, fun _ ↦ .inl ⟨_, _, _, rfl⟩, List.forall_mem_nil _⟩

theorem Early.later (h : Early routes tr) (hl : tr.Later beside tr') : Early routes tr' := by
  induction hl with
  | refl => exact h
  | tail _ hs ih => exact ih.step hs (fun h hg _ _ ↦ h.turn hg) fun h _ _ ↦ h

theorem Since.later (h : Since n routes tr) (hl : tr.Later beside tr') : Since n routes tr' := by
  induction hl with
  | refl => exact h
  | tail _ hs ih =>
    exact ih.step hs (fun h hg hh hw ↦ h.turn hg hh hw) fun h hk hf ↦ h.beside (hk n) hf

theorem signOuts_enter (c : Call) (v : View) (on : Onward) :
    (on.enter .session c v).2.context.signOuts = v.context.signOuts := by
  cases on with
  | waits s => rfl
  | ended x =>
    simp only [Onward.enter, Aim.close]
    split <;> rfl

theorem Early.granted {first : Errand} {v : View} {held held' : List Gate} {o : Outcome}
    {pair : TokenPair} {q : Phase × View} (h : first.Early) (hl : first.log = [])
    (hp : grantedTokens o = .ok pair) (hg : first.phase.Goes v held (.answer o) q held') :
    Entering q.2.context.signOuts q.2 held' q.1 ∧ (q.1.strand.result? = none →
      ∃ d, q.2.sight.credential = some d ∧ d.access = pair.access) := by
  rcases h hl with ⟨email, password, remember, he⟩ | ⟨remember, payload, r, he⟩ | ⟨reply, he⟩
  · rw [he] at hg
    cases hg
  · rw [he] at hg
    cases hg with
    | rejected hp' => cases hp'.symm.trans hp
    | granted hp' =>
      cases hp'.symm.trans hp
      obtain ⟨answer, -, ht⟩ : ∃ answer, received o = .ok answer ∧ loginTokens answer = .ok pair := by
        cases o with
        | none => cases hp
        | some answer => exact ⟨answer, rfl, hp⟩
      obtain ⟨hna, hnr⟩ := loginTokens_ne ht
      have hd := v.sight.credential_setCredential hna hnr remember (some payload)
      have hk : View.Keeps v.context.signOuts
          ⟨v.sight.setCredential pair remember (some payload), v.context⟩ held := by
        refine ⟨Nat.le_refl _, ?_, fun _ ↦ rfl⟩
        rw [hd]
        exact ⟨fun _ ↦ rfl, fun _ ↦ rfl⟩
      simp only [Aim.begin]
      generalize Onward.calling _ _ = on
      refine ⟨?_, fun hn ↦ ?_⟩
      · rw [signOuts_enter]
        exact .enter hk _ on
      · cases on with
        | waits s => exact ⟨_, hd, rfl⟩
        | ended x => cases hn
  · rw [he] at hg
    cases hg

end Beside

namespace Pool.Shows

variable {p q : Crowd} {tr : Traffic} {routes : Routes}

theorem context (h : p.Shows tr) : p.share.state.context = tr.view.context :=
  congrArg View.context h.view

theorem granted_turn (h : p.Shows tr) (hb : Beside.Early routes tr) {m : Member Job Gate Console Reply}
    (hm : p.members.head? = some m) (hl : m.log = []) {o : Outcome} {pair : TokenPair}
    (ho : grantedTokens o = .ok pair) (ha : p.after beside.setting (.turn 0 (.answer o)) = some q) :
    ∃ tr', q.Shows tr' ∧ Beside.Since q.share.state.context.signOuts routes tr' ∧
      ∀ m', q.members.head? = some m' → m'.result? = none →
        ∃ d, (Profile.credential q.share.state.profile).1 = some d ∧ d.access = pair.access := by
  rw [List.head?_eq_getElem?, h.getElem?, Option.map_eq_some_iff] at hm
  obtain ⟨first, hn, rfl⟩ := hm
  obtain ⟨before, after, p', v', held', hes, hlen, hallow, hg, hq⟩ := h.after ha hn
  obtain ⟨v, held, errands⟩ := tr
  obtain rfl := List.eq_nil_of_length_eq_zero hlen
  obtain ⟨hroutes, hlocked, first', rest, hes', hearly, hrest⟩ := hb
  subst hes
  obtain ⟨rfl, rfl⟩ := List.cons.inj hes'
  have hstep := Traffic.Step.turn hallow hg
  obtain ⟨he, hd⟩ := Beside.Early.granted hearly hl ho hg
  refine ⟨_, hq, ⟨hg.abides.routes.trans hroutes, hlocked.step hstep, _, _, rfl, ?_, hrest⟩,
    fun m' hm' hnone ↦ ?_⟩
  · rw [hq.context]
    exact he
  · rw [List.head?_eq_getElem?, hq.getElem?] at hm'
    cases hm'
    rw [hq.credential]
    exact hd hnone

/-- The call of a request for new tokens fails: nothing stays stored, whoever stored it. -/
theorem unrenewed {first : Errand} {rest : List Errand} (h : p.Shows tr)
    (hes : tr.errands = first :: rest)
    (hrest : ∀ e ∈ rest, ∃ c, Past (fun _ _ ↦ True) routes c e.log e.phase) {k : Nat}
    {w : Member Job Gate Console Reply} (hk : p.members[k + 1]? = some w) (hw : w.record.renewing ≠ [])
    {o : Outcome} {why : RefreshFailure} (ho : receivedTokens o = .error why) :
    ∃ q, p.after beside.setting (.turn (k + 1) (.answer o)) = some q ∧
      (Profile.credential q.share.state.profile).1 = none ∧
      q.share.state.context.signOuts = p.share.state.context.signOuts + 1 := by
  rw [h.getElem?, Option.map_eq_some_iff] at hk
  obtain ⟨e, he, rfl⟩ := hk
  rw [e.record_member] at hw
  have hmem : e ∈ rest := by
    rw [hes, List.getElem?_cons_succ] at he
    exact List.mem_of_getElem? he
  obtain ⟨c, hpast⟩ := hrest e hmem
  obtain ⟨q, tr', ha, hq, hv⟩ := h.after_renewing (R := beside) he hpast hw (o := o) trivial
  simp only [ho] at hv
  refine ⟨q, ha, ?_, ?_⟩
  · rw [hq.credential, hv]
    exact Sight.credential_clearCredential _
  · rw [hq.context, h.context, hv]
    rfl

end Pool.Shows

/-- A login beside requests, on a store that refuses nothing and while no cookie expires, in every order
in which they take their turns. Until the login is over, and after it if it signed somebody in, there is
a credential just as long as no more sign-outs are counted than when its tokens were stored; and a request
whose call for new tokens fails counts one more, whichever token it sent. So somebody is signed in
without a credential just if that happened before the login was over, and not since. -/
theorem Crowd.login_beside_requests {c : Console} (hc : c.Reliable) (ht : c.profile.host.Timely)
    {email password : String} {remember : Bool} {p p' : Crowd}
    (hp : Pool.Later beside.setting (Crowd.of c (.login email password remember)) p)
    {m : Member Job Gate Console Reply} (hm : p.members.head? = some m) (hl : m.log = [])
    {o : Outcome} {pair : TokenPair} (ho : grantedTokens o = .ok pair)
    (ha : p.after beside.setting (.turn 0 (.answer o)) = some p') :
    (∀ m', p'.members.head? = some m' → m'.result? = none →
      ∃ d, (Profile.credential p'.share.state.profile).1 = some d ∧ d.access = pair.access) ∧
    ∀ q, Pool.Later beside.setting p' q →
      (∀ k w, q.members[k + 1]? = some w → w.record.renewing ≠ [] →
        ∀ o why, receivedTokens o = .error why →
          ∃ q', q.after beside.setting (.turn (k + 1) (.answer o)) = some q' ∧
            (Profile.credential q'.share.state.profile).1 = none ∧
            q'.share.state.context.signOuts = q.share.state.context.signOuts + 1) ∧
      ∀ m', q.members.head? = some m' →
        let stored := p'.share.state.context.signOuts
        let credential := (Profile.credential q.share.state.profile).1
        let context := q.share.state.context
        (m'.result? = none ∨ ∃ b, m'.result? = some (.signedIn (.ok b))) ∧
        (m'.result? ≠ some (.signedIn (.ok false)) →
          (credential.isSome ↔ context.signOuts = stored)) ∧
        (m'.result? = some (.signedIn (.ok true)) →
          (context.observed.status.isAuthenticated = true ↔ context.seen = context.signOuts) ∧
          (context.observed.status.isAuthenticated = true ∧ credential = none ↔
            stored < context.seen ∧ context.seen = context.signOuts)) := by
  obtain ⟨tr, hs, hlater⟩ := hp.shows (Crowd.shows_of hc ht _)
  have hearly := (Beside.start c email password remember).later hlater
  obtain ⟨tr', hs', hb, hd⟩ := hs.granted_turn hearly hm hl ho ha
  refine ⟨hd, fun q hq ↦ ?_⟩
  obtain ⟨tr'', hs'', hlater'⟩ := hq.shows hs'
  obtain ⟨-, -, first, rest, hes, he, hrest⟩ := Beside.Since.later hb hlater'
  refine ⟨fun k w hk hw o why ho ↦ hs''.unrenewed hes hrest hk hw ho, fun m' hm' ↦ ?_⟩
  intro stored credential context
  rw [List.head?_eq_getElem?, hs''.getElem?, hes, List.getElem?_cons_zero, Option.map_some] at hm'
  obtain rfl := Option.some.inj hm'
  have hcred : credential = tr''.view.sight.credential := hs''.credential
  have hctx : context = tr''.view.context := hs''.context
  have hres : first.member.result? = first.phase.strand.result? := rfl
  rw [hres, hcred, hctx]
  exact ⟨he.result, he.isSome_credential, fun hr ↦ ⟨he.authenticated hr, he.forgotten hr⟩⟩

/-- A request sends `r1` for new tokens, and the user signs in again: `a2` is stored. Then `r1` is
refused and the current user is known. Somebody is signed in, and nothing is stored. -/
theorem Crowd.login_beside_requests_without_credential :
    let host : Host := ⟨.empty .memory, ⟨0⟩, fun _ ↦ ⟨List.replicate 32 0, rfl⟩, 0⟩
    let profile := (Profile.setCredential ⟨"a1", some "r1"⟩ true none (.blank host)).2
    let c : Console := ⟨profile, .fresh (.ofBase "http://h") "host"⟩
    ∃ p p' q, Pool.Later beside.setting (Crowd.of c (.login "ada@example.com" "s3cret" true)) p ∧
      (p.records.flatMap Record.renewing).map Web.Request.refreshToken? = [some "r1"] ∧
      Pool.Step beside.setting p p' ∧
      (∃ d, (Profile.credential p'.share.state.profile).1 = some d ∧ d.access = "a2") ∧
      Pool.Later beside.setting p' q ∧
      (∃ m ∈ q.members.head?, m.result? = some (.signedIn (.ok true))) ∧
      q.share.state.context.observed.status.isAuthenticated = true ∧
      (Profile.credential q.share.state.profile).1 = none := by
  intro host profile c
  let tokens := "\x7b\"access_token\":\"a2\",\"refreshToken\":\"r2\"\x7d"
  let user := "\x7b\"success\":true,\"data\":\x7b\"id\":\"u1\"\x7d\x7d"
  let grant : Outcome := some ⟨200, tokens.toUTF8.data.toList⟩
  let before : List (Event Job) := [.join (.request "GET" "http://h/x" .empty), .turn 1 .start,
    .turn 1 (.receive 401 ""), .turn 1 .grant, .turn 0 .start]
  let later : List (Event Job) := [.turn 1 (.receive 401 ""), .turn 0 (.receive 200 user)]
  have hplay : ∃ p, Pool.Later beside.setting (Crowd.of c (.login "ada@example.com" "s3cret" true)) p ∧
      (p.records.flatMap Record.renewing).map Web.Request.refreshToken? = [some "r1"] ∧
      (∃ m ∈ p.members.head?, m.log.isEmpty) ∧
      ∃ p' ∈ p.after beside.setting (.turn 0 (.answer grant)),
        (∃ m ∈ p'.members.head?, m.result? = none) ∧ ∃ q ∈ p'.play beside.setting later,
          (∃ m ∈ q.members.head?, m.result? = some (.signedIn (.ok true))) ∧
          p'.share.state.context.signOuts < q.share.state.context.seen ∧
          q.share.state.context.seen = q.share.state.context.signOuts :=
    Pool.exists_later_of_play before (by decide +kernel)
  obtain ⟨p, hp, hr, ⟨m, hm, hl⟩, p', ha, ⟨m', hm', hn⟩, q, hq, ⟨mq, hmq, hres⟩, hlt, hseen⟩ := hplay
  have hc : c.Reliable := ⟨by decide, fun _ _ _ ↦ rfl⟩
  have ht : c.profile.host.Timely := fun remember ↦ by cases remember <;> decide
  have hpair : grantedTokens grant = .ok ⟨"a2", some "r2"⟩ := by decide +kernel
  have hlater : Pool.Later beside.setting p' q := Pool.later_of_play hq
  obtain ⟨hd, hafter⟩ :=
    Crowd.login_beside_requests hc ht hp hm (List.isEmpty_iff.mp hl) hpair ha
  obtain ⟨-, -, hin⟩ := (hafter q hlater).2 mq hmq
  obtain ⟨hauth, hnone⟩ := (hin hres).2.mpr ⟨hlt, hseen⟩
  exact ⟨p, p', q, hp, hr, Pool.step_of_after ha, hd m' hm' hn, hlater, ⟨mq, hmq, hres⟩, hauth, hnone⟩

end Backoffice
