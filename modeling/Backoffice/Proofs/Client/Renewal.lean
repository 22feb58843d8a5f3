import Backoffice.Proofs.Client.Traffic

namespace Backoffice

open Web (Request Response Body Outcome)
open Console

attribute [local irreducible] Routes.ofBase

def Web.Request.refreshToken? (r : Request) : Option String :=
  match r.body with
  | .json v => (v.member? "refreshToken").bind Json.str?
  | _ => none

namespace Record

def calls (r : Record) : List Request := r.underway ++ r.log.map Exchange.request

/-- The calls for new tokens: those after the first one that carry no token. -/
def renewals (r : Record) : List Request := r.calls.dropLast.filter fun c ↦ c.auth.isNone

def retries (r : Record) : List Request := r.calls.dropLast.filter fun c ↦ c.auth.isSome

def renewing (r : Record) : List Request :=
  if r.log.isEmpty then [] else r.underway.filter fun c ↦ c.auth.isNone

/-- The tokens that were given for tokens, the latest first. -/
def granted (r : Record) : List TokenPair :=
  (r.log.dropLast.filter fun e ↦ e.request.auth.isNone).filterMap fun e ↦
    (receivedTokens e.outcome).toOption

end Record

theorem receivedTokens_ne {o : Outcome} {pair : TokenPair} (h : receivedTokens o = .ok pair) :
    pair.access ≠ "" ∧ pair.refresh ≠ some "" := by
  cases o with
  | none => cases h
  | some answer => exact refreshedTokens_ne h

namespace Call

variable {c : Call} {r : Request}

theorem auth_of_request? (h : c.request? = some r) : r.auth = c.token.map bearer :=
  auth_of_buildRequest h

theorem eq_of_retry {token : Option String} {t : String} {r' : Request}
    (h : request? { c with token } = some r) (hr : (c.retry t).request? = some r') :
    r' = { r with auth := some (bearer t) } := by
  obtain ⟨u, hu, rfl⟩ := request?_eq_some h
  obtain ⟨u', hu', rfl⟩ := request?_eq_some hr
  cases hu.symm.trans hu'
  rfl

theorem refreshToken?_of_renewal {routes : Routes} {device : DeviceId} {token : String}
    (h : (renewal routes device token).request? = some r) : r.refreshToken? = some token := by
  obtain ⟨u, -, rfl⟩ := request?_eq_some h
  rfl

end Call

theorem bearer_inj {s t : String} (h : bearer s = bearer t) : s = t := (String.append_right_inj _).mp h

def Renews (routes : Routes) (r : Request) : Prop :=
  ∃ device token, (Call.renewal routes device token).request? = some r

theorem Renews.auth {routes : Routes} {r : Request} (h : Renews routes r) : r.auth = none := by
  obtain ⟨device, token, hr⟩ := h
  exact Call.auth_of_request? hr

structure Call.Refused (c : Call) (token : Option String) (e : Exchange) : Prop where
  sent : request? { c with token } = some e.request
  unauthorized : ∃ a, e.outcome = some a ∧ a.status = unauthorized

inductive Renewed (routes : Routes) (e : Exchange) : List Exchange → Prop
  | spared : Renewed routes e [e]
  | renewed {x : Exchange} (hx : Renews routes x.request) : Renewed routes e [x, e]

/-- The exchanges that a request has had by its phase. `Other token t` says that `t` may be sent in place
of a token that was refused. -/
inductive Past (Other : Option String → String → Prop) (routes : Routes) (c : Call) :
    List Exchange → Phase → Prop
  | ready (hc : c.token = none) :
      Past Other routes c [] (.ready (.request c.method c.url c.body))
  | asked {token : Option String} {r : Request} (hr : Call.request? { c with token } = some r) :
      Past Other routes c [] (.inquiring .answer c (.asked token r))
  | unsent : Past Other routes c [] (.ended (.answer (.error .invalidRequest)))
  | answered {e : Exchange} (he : ∀ a, e.outcome = some a → a.status ≠ unauthorized) :
      Past Other routes c [e] (.ended (.answer (received e.outcome)))
  | queued {token : Option String} {e : Exchange} (he : c.Refused token e) :
      Past Other routes c [e] (.inquiring .answer c (.queued token))
  | renewing {token : Option String} {e : Exchange} {r : Request} (he : c.Refused token e)
      (hr : Renews routes r) : Past Other routes c [e] (.inquiring .answer c (.renewing token r))
  | unrenewed {token : Option String} {e : Exchange} {log : List Exchange} {why : RefreshFailure}
      (he : c.Refused token e) (hl : Renewed routes e log) :
      Past Other routes c log (.ended (.answer (.error (.refreshFailed why))))
  | unsendable {token : Option String} {e : Exchange} {log : List Exchange} {t : String}
      (he : c.Refused token e) (hl : Renewed routes e log) (ht : Other token t)
      (hr : (c.retry t).request? = none) :
      Past Other routes c log (.ended (.answer (.error .invalidRequest)))
  | retrying {token : Option String} {e : Exchange} {log : List Exchange} {t : String} {r : Request}
      (he : c.Refused token e) (hl : Renewed routes e log) (ht : Other token t)
      (hr : (c.retry t).request? = some r) :
      Past Other routes c log (.inquiring .answer c (.retrying r))
  | retried {token : Option String} {e x : Exchange} {log : List Exchange} {t : String}
      (he : c.Refused token e) (hl : Renewed routes e log) (ht : Other token t)
      (hr : (c.retry t).request? = some x.request) :
      Past Other routes c (x :: log) (.ended (.answer (received x.outcome)))

namespace Past

variable {Other : Option String → String → Prop} {routes : Routes} {c : Call} {log : List Exchange}
  {p : Phase} {v : View} {held held' : List Gate} {t : Turn} {q : Phase × View}

theorem begin (v : View) : Past Other routes c [] (Aim.answer.begin c v).1 := by
  simp only [Aim.begin, Onward.calling]
  split
  · next r hr => exact .asked hr
  · exact .unsent

theorem retry {token : Option String} {e : Exchange} {t : String} (he : c.Refused token e)
    (hl : Renewed routes e log) (ht : Other token t) :
    Past Other routes c log ((Onward.calling (c.retry t) .retrying).enter .answer c v).1 := by
  simp only [Onward.calling]
  split
  · next r hr => exact .retrying he hl ht hr
  · next hr => exact .unsendable he hl ht hr

theorem next (hp : Past Other routes c log p) (hv : v.context.routes = routes)
    (hg : p.Goes v held t q held') (hn : ∀ token t, some t ≠ token → Other token t)
    (hf : ∀ token r o pair, p = .inquiring .answer c (.renewing token r) → t = .answer o →
      receivedTokens o = .ok pair → Other token pair.access) :
    Past Other routes c ((p.exchange? t).toList ++ log) q.1 := by
  cases hp with
  | ready hc =>
    obtain ⟨m, u, tok, b⟩ := c
    subst hc
    cases hg
    exact begin v
  | asked hr =>
    cases hg with
    | inquires hs =>
      cases hs with
      | answered h => exact .answered h
      | refused h => exact .queued ⟨hr, _, rfl, h⟩
  | queued he =>
    cases hg with
    | inquires hs =>
      cases hs with
      | replaced _ _ hr => exact retry he .spared (hn _ _ hr)
      | unrefreshable => exact .unrenewed he .spared
      | unsent => exact .unrenewed he .spared
      | renewing _ _ _ hr => exact .renewing he ⟨_, _, hv ▸ hr⟩
  | renewing he hr =>
    cases hg with
    | inquires hs =>
      cases hs with
      | unrenewed => exact .unrenewed he (.renewed hr)
      | renewed hp => exact retry he (.renewed hr) (hf _ _ _ _ rfl rfl hp)
  | retrying he hl ht hr =>
    cases hg with
    | inquires hs =>
      cases hs with
      | retried => exact .retried (x := ⟨_, _⟩) he hl ht hr
  | unsent | answered | unrenewed | unsendable | retried => cases hg

end Past

/-- After its first call, a request makes one for new tokens or none before it is retried. -/
theorem Renewed.later {routes : Routes} {e : Exchange} {log : List Exchange}
    (h : Renewed routes e log) (us : List Request) :
    (us ++ log.map Exchange.request).dropLast = us ∨
      ∃ r, Renews routes r ∧ (us ++ log.map Exchange.request).dropLast = us ++ [r] := by
  cases h with
  | spared => exact .inl (List.dropLast_concat)
  | @renewed x hx =>
    refine .inr ⟨x.request, hx, ?_⟩
    rw [List.map_cons, List.dropLast_append_of_ne_nil (List.cons_ne_nil _ _)]
    rfl

theorem Renewed.retries {routes : Routes} {e : Exchange} {log : List Exchange}
    (h : Renewed routes e log) (us : List Request) (hu : ∀ u ∈ us, u.auth.isSome) :
    ((us ++ log.map Exchange.request).dropLast.filter fun c ↦ c.auth.isSome) = us := by
  have hs : us.filter (fun c ↦ c.auth.isSome) = us := List.filter_eq_self.mpr hu
  rcases h.later us with hl | ⟨r, hr, hl⟩
  · rw [hl, hs]
  · rw [hl, List.filter_append, hs]
    simp [hr.auth]

theorem Renewed.getLast? {routes : Routes} {e : Exchange} {log : List Exchange}
    (h : Renewed routes e log) : log.getLast? = some e := by
  cases h <;> rfl

theorem Renewed.renews {routes : Routes} {e : Exchange} {log : List Exchange}
    (h : Renewed routes e log) (us : List Request) (hu : ∀ u ∈ us, u.auth.isSome) {r : Request}
    (hr : r ∈ (us ++ log.map Exchange.request).dropLast.filter fun c ↦ c.auth.isNone) :
    Renews routes r := by
  obtain ⟨hm, hn⟩ := List.mem_filter.mp hr
  have hs : r ∉ us := by
    intro hm
    have hu' := hu r hm
    rw [Option.isNone_iff_eq_none.mp hn] at hu'
    cases hu'
  rcases h.later us with hl | ⟨x, hx, hl⟩
  · exact absurd (hl ▸ hm) hs
  · rw [hl, List.mem_append, List.mem_singleton] at hm
    rcases hm with hm | rfl
    · exact absurd hm hs
    · exact hx

namespace Phase

def token? : Phase → Option String
  | inquiring _ _ (.asked token _) => token
  | inquiring _ _ (.queued token) => token
  | inquiring _ _ (.renewing token _) => token
  | _ => none

def Failed (p : Phase) : Prop := ∃ why, p = .ended (.answer (.error (.refreshFailed why)))

end Phase

structure Errand.Stuck (e : Errand) : Prop where
  refused : e.log ≠ []
  ended : e.phase = .ended (.answer (.error .invalidRequest))

/-- What a turn of a request or a logout changes of the calls for new tokens, of the tokens given, of the
credential and of the lock. -/
inductive Move (e : Errand) (v : View) (held : List Gate) (t : Turn) (e' : Errand) (v' : View) :
    List Gate → Prop
  | idles (hr : e'.record.renewals = e.record.renewals)
      (hp : e'.record.granted = e.record.granted) (hv : v' = v) (hf : ¬e'.phase.Failed)
      (hs : ∀ x, e'.phase.token? = some x →
        v.sight.credential.map Credential.access = some x ∨ e.phase.token? = some x)
      (hu : e'.Stuck → ∃ c, v.sight.credential = some c ∧ Web.isHeaderValue c.access = false) :
      Move e v held t e' v' held
  | leaves (hr : e'.record.renewals = e.record.renewals)
      (hp : e'.record.granted = e.record.granted) (hc : v'.sight.credential = none)
      (hf : ¬e'.phase.Failed) (hs : e'.phase.token? = none) (hu : ¬e'.Stuck) :
      Move e v held t e' v' held
  | gives (hg : Gate.refresh ∉ held) (hr : e'.record.renewals = e.record.renewals)
      (hp : e'.record.granted = e.record.granted) (hc : v'.sight.credential = none)
      (hs : e'.phase.token? = none) (hu : ¬e'.Stuck) : Move e v held t e' v' held
  | renews {token : String} {r : Request} (hg : Gate.refresh ∉ held)
      (hr : e'.record.renewals = r :: e.record.renewals)
      (hp : e'.record.granted = e.record.granted) (hc : v'.sight.credential = v.sight.credential)
      (ht : v.sight.credential.bind Credential.refresh = some token)
      (hq : r.refreshToken? = some token) (hf : ¬e'.phase.Failed)
      (hs : e'.phase.token? = e.phase.token?) (hu : ¬e'.Stuck) :
      Move e v held t e' v' (.refresh :: held)
  | fails (hw : e.phase.isRenewing = true) (hr : e'.record.renewals = e.record.renewals)
      (hp : e'.record.granted = e.record.granted) (hc : v'.sight.credential = none)
      (hs : e'.phase.token? = none) (hu : ¬e'.Stuck) :
      Move e v held t e' v' (held.erase .refresh)
  | gains {o : Outcome} {pair : TokenPair} (hw : e.phase.isRenewing = true)
      (hr : e'.record.renewals = e.record.renewals)
      (hp : e'.record.granted = pair :: e.record.granted) (ht : t = .answer o)
      (ho : receivedTokens o = .ok pair)
      (hc : v'.sight = v.sight.writeTokens pair v.sight.remembers) (hf : ¬e'.phase.Failed)
      (hs : e'.phase.token? = none) (hu : e'.Stuck → Web.isHeaderValue pair.access = false) :
      Move e v held t e' v' (held.erase .refresh)

theorem Move.credential {e e' : Errand} {v v' : View} {held held' : List Gate} {t : Turn}
    (h : Move e v held t e' v' held') :
    e'.record.granted = e.record.granted ∧
        (v'.sight.credential = none ∨ v'.sight.credential = v.sight.credential) ∨
      ∃ pair, e'.record.granted = pair :: e.record.granted := by
  cases h with
  | idles _ hg hv => exact .inl ⟨hg, .inr (hv ▸ rfl)⟩
  | leaves _ hg hc | gives _ _ hg hc | fails _ _ hg hc => exact .inl ⟨hg, .inl hc⟩
  | renews _ _ hg hc => exact .inl ⟨hg, .inr hc⟩
  | gains _ _ hg => exact .inr ⟨_, hg⟩

namespace Past

variable {Other : Option String → String → Prop} {routes : Routes} {c : Call} {v : View}
  {held held' : List Gate} {t : Turn} {q : Phase × View} {e : Errand}

theorem enter_answer (on : Onward) : (on.enter .answer c v).2 = v := by
  cases on <;> rfl

/-- A call that was sent with one token can be sent with another unless that is no header value. -/
theorem isHeaderValue_of_unsendable {token : Option String} {x : Exchange} {access : String}
    (he : c.Refused token x) (hr : (c.retry access).request? = none) :
    Web.isHeaderValue access = false := by
  have hs := he.sent
  simp only [Call.request?, Call.retry, buildRequest] at hs hr
  split at hs
  · cases hs
  · next u hu =>
    simp only [hu] at hr
    split at hs
    · next hg =>
      simp only [Bool.and_eq_true] at hg
      cases hv : Web.isHeaderValue access with
      | false => rfl
      | true => simp [hg.1, hv] at hr
    · cases hs

theorem calling_retry (access : String) (x : Exchange) (log : List Exchange) :
    let p := ((Onward.calling (c.retry access) .retrying).enter .answer c v).1
    let after : Record := ⟨x :: log, p.request?.toList⟩
    after.renewals = Record.renewals ⟨x :: log, []⟩ ∧ p.token? = none ∧ ¬p.Failed ∧
      (p = .ended (.answer (.error .invalidRequest)) → (c.retry access).request? = none) := by
  intro p after
  cases hr : (c.retry access).request? with
  | none =>
    have hp : p = .ended (.answer (.error .invalidRequest)) := by
      simp only [p, Onward.calling, hr, Onward.enter]
      rfl
    refine ⟨by simp only [after, hp]; rfl, by rw [hp]; rfl, fun hf ↦ ?_, fun _ ↦ rfl⟩
    obtain ⟨why, hf⟩ := hf
    cases hp.symm.trans hf
  | some r =>
    have hp : p = .inquiring .answer c (.retrying r) := by
      simp only [p, Onward.calling, hr, Onward.enter]
    have ha : r.auth = some (bearer access) := Call.auth_of_request? hr
    refine ⟨?_, by rw [hp]; rfl, fun hf ↦ ?_, fun ho ↦ ?_⟩
    · simp [after, hp, Record.renewals, Record.calls, Phase.request?, ha]
    · obtain ⟨why, hf⟩ := hf
      cases hp.symm.trans hf
    · cases hp.symm.trans ho

theorem not_failed_received (o : Outcome) : ¬(Phase.ended (.answer (received o))).Failed := by
  intro hf
  obtain ⟨why, hf⟩ := hf
  cases o <;> cases hf

theorem received_ne_invalid (o : Outcome) :
    Phase.ended (.answer (received o)) ≠ .ended (.answer (.error .invalidRequest)) := by
  cases o <;> nofun

theorem begin_eq (c : Call) (v : View) :
    let token := v.sight.credential.map Credential.access
    (∃ r, Aim.answer.begin c v = (.inquiring .answer c (.asked token r), v)) ∨
      Aim.answer.begin c v = (.ended (.answer (.error .invalidRequest)), v) := by
  intro token
  simp only [Aim.begin, Onward.calling]
  split
  · next r hr => exact .inl ⟨r, rfl⟩
  · exact .inr rfl

/-- A request that has the lock finds another token, finds none to ask with, or asks for new ones. -/
theorem move_of_queued {j : Job} {token : Option String} {x : Exchange} {on : Onward} {v' : View}
    (he : c.Refused token x) (hs : Stage.Goes c (.queued token) v held t on v' held') :
    let e : Errand := ⟨j, [x], .inquiring .answer c (.queued token)⟩
    let q := on.enter .answer c v'
    Move e v held t (e.next t q.1) q.2 held' := by
  cases hs with
  | @replaced _ d _ _ hg hd hn =>
    obtain ⟨hr, ht, hf, hu⟩ := calling_retry (c := c) (v := v) d.access x []
    refine .idles hr rfl (enter_answer _) hf (fun y hy ↦ ?_) fun hs ↦ ?_
    · cases ht.symm.trans hy
    · exact ⟨d, hd, isHeaderValue_of_unsendable he (hu hs.ended)⟩
  | unrefreshable hg | unsent hg =>
    exact .gives hg rfl rfl (Sight.credential_clearCredential _) rfl fun hu ↦ by cases hu.ended
  | @renewing _ _ r _ _ hg _ ht hr =>
    have ha := Renews.auth ⟨_, _, hr⟩
    refine .renews (r := r) hg ?_ rfl v.sight.credential_identified ht
      (Call.refreshToken?_of_renewal hr) nofun rfl fun hu ↦ by cases hu.ended
    simp [Record.renewals, Record.calls, Errand.record, Errand.next, Phase.exchange?,
      Onward.enter, Phase.request?, ha]

theorem move_of_renewing {j : Job} {token : Option String} {x : Exchange} {r : Request} {on : Onward}
    {v' : View} (he : c.Refused token x) (hr : Renews routes r)
    (hs : Stage.Goes c (.renewing token r) v held t on v' held') :
    let e : Errand := ⟨j, [x], .inquiring .answer c (.renewing token r)⟩
    let q := on.enter .answer c v'
    Move e v held t (e.next t q.1) q.2 held' := by
  have ha := hr.auth
  cases hs with
  | unrenewed hp =>
    refine .fails rfl rfl ?_ (Sight.credential_clearCredential _) rfl fun hu ↦ by cases hu.ended
    simp [Record.granted, Errand.record, Errand.next, Phase.exchange?, Phase.request?, ha, hp,
      Except.toOption]
  | @renewed _ _ o pair _ _ hp =>
    obtain ⟨hr, ht, hf, hu⟩ := calling_retry (c := c)
      (v := ⟨v.sight.writeTokens pair v.sight.remembers, v.context⟩) pair.access ⟨r, o⟩ [x]
    refine .gains rfl hr ?_ rfl hp ?_ hf ht fun hs ↦ isHeaderValue_of_unsendable he (hu hs.ended)
    · simp [Record.granted, Errand.record, Errand.next, Phase.exchange?, Phase.request?, ha, hp,
        Except.toOption]
    · rw [enter_answer]

theorem moves (hp : Past Other routes c e.log e.phase) (hg : e.phase.Goes v held t q held') :
    Move e v held t (e.next t q.1) q.2 held' := by
  obtain ⟨j, log, p⟩ := e
  -- Only where it waits for the lock can a request ask for new tokens, and only where it asked for them can
  -- it be given any. In every other stage a turn leaves both alone.
  cases hp with
  | ready hc =>
    cases hg
    rcases begin_eq ⟨c.method, c.url, none, c.body⟩ v with ⟨r, hq⟩ | hq
    · rw [hq]
      exact .idles rfl rfl rfl nofun (fun x hx ↦ .inl hx) fun hu ↦ absurd rfl hu.refused
    · rw [hq]
      exact .idles rfl rfl rfl nofun nofun fun hu ↦ absurd rfl hu.refused
  | asked hr =>
    cases hg with
    | inquires hs =>
      cases hs with
      | answered h =>
        exact .idles rfl rfl rfl (not_failed_received _) nofun fun hu ↦
          absurd hu.ended (received_ne_invalid _)
      | refused h => exact .idles rfl rfl rfl nofun (fun _ ↦ .inr) fun hu ↦ by cases hu.ended
  | queued he =>
    cases hg with
    | inquires hs => exact move_of_queued he hs
  | renewing he hr =>
    cases hg with
    | inquires hs => exact move_of_renewing he hr hs
  | @retrying token x _ access r he hl ht hr =>
    have ha : r.auth = some (bearer access) := Call.auth_of_request? hr
    cases hg with
    | inquires hs =>
      cases hs with
      | retried =>
        refine .idles rfl ?_ rfl (not_failed_received _) (fun _ ht ↦ by cases ht) fun hu ↦
          absurd hu.ended (received_ne_invalid _)
        cases hl <;> simp [Record.granted, Errand.record, Errand.next, Phase.exchange?,
          Phase.request?, ha]
  | unsent | answered | unrenewed | unsendable | retried => cases hg

theorem length_renewing (hp : Past Other routes c e.log e.phase) :
    e.record.renewing.length = if e.phase.isRenewing then 1 else 0 := by
  obtain ⟨j, log, p⟩ := e
  cases hp with
  | renewing he hr => simp [Errand.record, Record.renewing, Phase.request?, Phase.isRenewing, hr.auth]
  | @retrying _ _ _ access r _ hl _ hr =>
    have ha : r.auth = some (bearer access) := Call.auth_of_request? hr
    simp [Errand.record, Record.renewing, Phase.request?, Phase.isRenewing, ha]
  | asked => rfl
  | _ => simp [Errand.record, Record.renewing, Phase.request?, Phase.isRenewing]

theorem renewing_of_ne_nil (hp : Past Other routes c e.log e.phase) (hw : e.record.renewing ≠ []) :
    ∃ token r, e.phase = .inquiring .answer c (.renewing token r) := by
  have hl := hp.length_renewing
  have hr : e.phase.isRenewing = true := by
    split at hl
    · assumption
    · exact absurd (List.eq_nil_of_length_eq_zero hl) hw
  obtain ⟨j, log, p⟩ := e
  cases hp with
  | renewing he hr => exact ⟨_, _, rfl⟩
  | _ => cases hr

theorem renews_of_mem (hp : Past Other routes c e.log e.phase) {r : Request}
    (hr : r ∈ e.record.renewals) : Renews routes r := by
  obtain ⟨j, log, p⟩ := e
  cases hp with
  | @renewing _ _ x _ hx =>
    obtain ⟨hr, -⟩ := List.mem_filter.mp hr
    cases List.mem_singleton.mp hr
    exact hx
  | unrenewed _ hl => exact hl.renews [] (List.forall_mem_nil _) hr
  | unsendable _ hl => exact hl.renews [] (List.forall_mem_nil _) hr
  | @retrying _ _ _ access x _ hl _ hx =>
    refine hl.renews [x] (fun y hy ↦ ?_) hr
    cases List.mem_singleton.mp hy
    rw [Call.auth_of_request? hx]
    rfl
  | @retried _ _ x _ access _ hl _ hx =>
    refine hl.renews [x.request] (fun y hy ↦ ?_) hr
    cases List.mem_singleton.mp hy
    rw [Call.auth_of_request? hx]
    rfl
  | _ => cases hr

/-- A request that was refused is made again once at most, with another token. -/
theorem retries (hp : Past Other routes c e.log e.phase)
    (hn : ∀ token t, Other token t → some t ≠ token)
    {x : Exchange} (hx : e.log.getLast? = some x)
    (hu : ∃ a, x.outcome = some a ∧ a.status = unauthorized) :
    e.record.retries = [] ∧ (∀ reply, e.phase = .ended reply →
        (∃ why, reply = .answer (.error (.refreshFailed why))) ∨ e.Stuck ∧
          reply = .answer (.error .invalidRequest)) ∨
      ∃ t r, e.record.retries = [r] ∧ r = { x.request with auth := some (bearer t) } ∧
        x.request.auth ≠ some (bearer t) ∧ ∀ reply, e.phase = .ended reply →
          ∃ y, e.log.head? = some y ∧ y.request = r ∧ reply = .answer (received y.outcome) := by
  obtain ⟨j, log, p⟩ := e
  -- Two calls with one token carry the same header, and only those do.
  have hne : ∀ {token : Option String} {t : String}, c.Refused token x → some t ≠ token →
      x.request.auth ≠ some (bearer t) := by
    intro token t he ht ha
    rw [Call.auth_of_request? he.sent] at ha
    obtain ⟨s, rfl, hs⟩ := Option.map_eq_some_iff.mp ha
    exact ht (congrArg some (bearer_inj hs).symm)
  cases hp with
  | ready | asked | unsent => cases hx
  | answered he =>
    obtain ⟨a, ha, hs⟩ := hu
    cases hx
    exact absurd hs (he a ha)
  | queued he => exact .inl ⟨rfl, nofun⟩
  | renewing he hr =>
    refine .inl ⟨?_, nofun⟩
    simp [Errand.record, Record.retries, Record.calls, Phase.request?, hr.auth]
  | unrenewed he hl =>
    refine .inl ⟨hl.retries [] (List.forall_mem_nil _), fun reply hr ↦ ?_⟩
    cases hr
    exact .inl ⟨_, rfl⟩
  | unsendable he hl ht hr =>
    refine .inl ⟨hl.retries [] (List.forall_mem_nil _), fun reply hr' ↦ ?_⟩
    cases hr'
    refine .inr ⟨⟨?_, rfl⟩, rfl⟩
    cases hl <;> exact List.cons_ne_nil _ _
  | @retrying token first _ t r he hl ht hr =>
    cases hl.getLast?.symm.trans hx
    refine .inr ⟨t, r, ?_, Call.eq_of_retry he.sent hr, hne he (hn _ _ ht), fun _ hp ↦ by cases hp⟩
    refine hl.retries [r] fun u hu ↦ ?_
    rw [List.mem_singleton.mp hu, Call.auth_of_request? hr]
    rfl
  | @retried token first y log t he hl ht hr =>
    have hx' : log.getLast? = some x := by
      cases hl <;> exact hx
    cases hl.getLast?.symm.trans hx'
    refine .inr ⟨t, y.request, ?_, Call.eq_of_retry he.sent hr, hne he (hn _ _ ht), fun reply hr' ↦ ?_⟩
    · refine hl.retries [y.request] fun u hu ↦ ?_
      rw [List.mem_singleton.mp hu, Call.auth_of_request? hr]
      rfl
    · cases hr'
      exact ⟨y, rfl, rfl, rfl⟩

theorem length_le (hp : Past Other routes c e.log e.phase) : e.log.length ≤ 3 := by
  obtain ⟨j, log, p⟩ := e
  have hl : ∀ {x log}, Renewed routes x log → log.length ≤ 2 := by
    intro x log hl
    cases hl <;> simp
  cases hp with
  | unrenewed _ h | unsendable _ h | retrying _ h => exact Nat.le_succ_of_le (hl h)
  | retried _ h => exact Nat.succ_le_succ (hl h)
  | _ => simp

theorem waits (hp : Past Other routes c e.log e.phase) :
    (∃ reply, e.phase = .ended reply) ∨ e.record.underway ≠ [] ∨
      (∃ token, e.phase = .inquiring .answer c (.queued token)) ∨ ∃ j, e.phase = .ready j := by
  obtain ⟨j, log, p⟩ := e
  cases hp with
  | ready => exact .inr (.inr (.inr ⟨_, rfl⟩))
  | asked | renewing | retrying => exact .inr (.inl (List.cons_ne_nil _ _))
  | queued => exact .inr (.inr (.inl ⟨_, rfl⟩))
  | _ => exact .inl ⟨_, rfl⟩

end Past

inductive Errand.Sound (Other : Option String → String → Prop) (routes : Routes) (e : Errand) : Prop
  | request (c : Call) (hj : e.job = .request c.method c.url c.body)
      (hp : Past Other routes c e.log e.phase)
  | leaving (hj : e.job = .signOut) (hl : e.log = []) (hp : e.phase = .ready .signOut)
  | left (hj : e.job = .signOut) (hl : e.log = []) (hp : e.phase = .ended (.signedOut (.ok ())))

namespace Errand.Sound

variable {Other : Option String → String → Prop} {routes : Routes} {v : View}
  {held held' : List Gate} {t : Turn} {q : Phase × View} {e : Errand}

theorem start {j : Job} (hj : j.isLogin = false) : (Errand.start j).Sound Other routes := by
  cases j with
  | request method url body => exact .request ⟨method, url, none, body⟩ rfl (.ready rfl)
  | login => cases hj
  | signOut => exact .leaving rfl rfl rfl

theorem next (h : e.Sound Other routes) (hv : v.context.routes = routes)
    (hg : e.phase.Goes v held t q held') (hn : ∀ token t, some t ≠ token → Other token t)
    (hf : ∀ token c r o pair, e.phase = .inquiring .answer c (.renewing token r) → t = .answer o →
      receivedTokens o = .ok pair → Other token pair.access) : (e.next t q.1).Sound Other routes := by
  cases h with
  | request c hj hp => exact .request c hj (hp.next hv hg hn fun token ↦ hf token c)
  | leaving hj hl hp =>
    obtain ⟨j, log, p⟩ := e
    cases hp
    cases hl
    cases hg
    exact .left hj rfl rfl
  | left hj hl hp =>
    rw [hp] at hg
    cases hg

theorem moves (h : e.Sound Other routes) (hg : e.phase.Goes v held t q held') :
    Move e v held t (e.next t q.1) q.2 held' := by
  cases h with
  | request c hj hp => exact hp.moves hg
  | leaving hj hl hp =>
    obtain ⟨j, log, p⟩ := e
    cases hp
    cases hl
    cases hg
    exact .leaves rfl rfl (Sight.credential_clearCredential v.sight) nofun rfl fun hu ↦
      absurd rfl hu.refused
  | left hj hl hp =>
    rw [hp] at hg
    cases hg

theorem length_renewing (h : e.Sound Other routes) :
    e.record.renewing.length = if e.phase.isRenewing then 1 else 0 := by
  cases h with
  | request c hj hp => exact hp.length_renewing
  | leaving hj hl hp | left hj hl hp => simp [Errand.record, Record.renewing, hl, hp, Phase.isRenewing]

theorem renews_of_mem (h : e.Sound Other routes) {r : Request} (hr : r ∈ e.record.renewals) :
    Renews routes r := by
  cases h with
  | request c hj hp => exact hp.renews_of_mem hr
  | leaving hj hl hp | left hj hl hp =>
    simp [Errand.record, Record.renewals, Record.calls, hl, hp, Phase.request?] at hr

theorem length_le (h : e.Sound Other routes) : e.log.length ≤ 3 := by
  cases h with
  | request c hj hp => exact hp.length_le
  | leaving hj hl hp | left hj hl hp =>
    rw [hl]
    exact Nat.zero_le 3

end Errand.Sound

section Middle

variable {ε α : Type} {f : ε → List α} {before after : List ε} {e e' : ε}

theorem flatMap_middle_eq (h : f e' = f e) :
    (before ++ e' :: after).flatMap f = (before ++ e :: after).flatMap f := by
  simp only [List.flatMap_append, List.flatMap_cons, h]

theorem flatMap_middle_perm {a : α} (h : f e' = a :: f e) :
    ((before ++ e' :: after).flatMap f).Perm (a :: (before ++ e :: after).flatMap f) := by
  simp only [List.flatMap_append, List.flatMap_cons, h, List.cons_append]
  exact List.perm_middle

theorem length_flatMap_eq_countP {p : ε → Bool} {es : List ε}
    (h : ∀ e ∈ es, (f e).length = if p e then 1 else 0) : (es.flatMap f).length = es.countP p := by
  induction es with
  | nil => rfl
  | cons e es ih =>
    rw [List.flatMap_cons, List.length_append, List.countP_cons, h e List.mem_cons_self,
      ih fun x hx ↦ h x (List.mem_cons_of_mem _ hx), Nat.add_comm]

theorem forall_mem_middle {P : ε → Prop} (h : ∀ x ∈ before ++ e :: after, P x) (he : P e') :
    ∀ x ∈ before ++ e' :: after, P x := by
  intro x hx
  rw [List.mem_append, List.mem_cons] at hx
  rcases hx with hx | rfl | hx
  · exact h x (List.mem_append_left _ hx)
  · exact he
  · exact h x (List.mem_append_right _ (List.mem_cons_of_mem _ hx))

end Middle

namespace Traffic

def renewing (tr : Traffic) : List Request := tr.errands.flatMap fun e ↦ e.record.renewing

def renewals (tr : Traffic) : List Request := tr.errands.flatMap fun e ↦ e.record.renewals

def granted (tr : Traffic) : List TokenPair := tr.errands.flatMap fun e ↦ e.record.granted

def spent (tr : Traffic) : List (Option String) := tr.renewals.map Web.Request.refreshToken?

section Join

variable {v : View} {held : List Gate} {errands : List Errand} {j : Job}

theorem flatMap_join {α : Type} {f : Record → List α} (hf : f ⟨[], []⟩ = []) :
    ((errands ++ [Errand.start j]).flatMap fun e ↦ f e.record) = errands.flatMap fun e ↦ f e.record := by
  rw [List.flatMap_append, List.flatMap_singleton]
  exact (congrArg _ hf).trans (List.append_nil _)

theorem renewals_join : renewals ⟨v, held, errands ++ [.start j]⟩ = renewals ⟨v, held, errands⟩ :=
  flatMap_join rfl

theorem granted_join : granted ⟨v, held, errands ++ [.start j]⟩ = granted ⟨v, held, errands⟩ :=
  flatMap_join rfl

end Join

end Traffic

namespace Phase

theorem eq_ended_of_result {p : Phase} {reply : Reply} (h : p.strand.result? = some reply) :
    p = .ended reply := by
  cases p with
  | ended r =>
    cases h
    rfl
  | inquiring a c s => cases s <;> cases h
  | _ => cases h

end Phase

namespace Pool.Shows

variable {p : Crowd} {tr : Traffic}

theorem renewing (h : p.Shows tr) : p.records.flatMap Record.renewing = tr.renewing := by
  rw [h.records, Traffic.records, List.flatMap_map]
  rfl

theorem renewals (h : p.Shows tr) : p.records.flatMap Record.renewals = tr.renewals := by
  rw [h.records, Traffic.records, List.flatMap_map]
  rfl

theorem granted (h : p.Shows tr) : p.records.flatMap Record.granted = tr.granted := by
  rw [h.records, Traffic.records, List.flatMap_map]
  rfl

theorem mem (h : p.Shows tr) {m : Member Job Gate Console Reply} (hm : m ∈ p.members) :
    ∃ e ∈ tr.errands, e.member = m := by
  rw [h.members] at hm
  exact List.mem_map.mp hm

theorem credential (h : p.Shows tr) :
    (Profile.credential p.share.state.profile).1 = tr.view.sight.credential := by
  rw [Profile.credential_eq h.reliable, ← h.view]
  rfl

theorem after_renewing {R : Rules} [DecidablePred R.setting.admits]
    [∀ rs r, DecidablePred (R.setting.allows rs r)] (h : p.Shows tr) {n : Nat} {e : Errand}
    (he : tr.errands[n]? = some e) {Other : Option String → String → Prop} {routes : Routes} {c : Call}
    (hp : Past Other routes c e.log e.phase) (hw : e.record.renewing ≠ []) {o : Outcome}
    (ha : R.allows tr.records e.record (.answer o)) :
    ∃ q tr', p.after R.setting (.turn n (.answer o)) = some q ∧ q.Shows tr' ∧
      tr'.view = match receivedTokens o with
        | .ok pair => ⟨tr.view.sight.writeTokens pair tr.view.sight.remembers, tr.view.context⟩
        | .error _ => signedOut tr.view := by
  obtain ⟨token, r, hph⟩ := hp.renewing_of_ne_nil hw
  have hm : p.members[n]? = some e.member := by rw [h.getElem?, he, Option.map_some]
  have hgo : (e.member.go (.answer o) p.share).isSome := by
    simp only [Member.go, Errand.member, hph, Phase.strand, Inquiry.strand, Strand.go, Option.map_some,
      Option.isSome_some]
  have ha' : R.setting.allows p.records e.member.record (.answer o) := by
    rw [h.records, e.record_member]
    exact ha
  obtain ⟨q, hq⟩ := exists_after hm ha' hgo
  obtain ⟨before, after, p', v', held', -, -, -, hg, hs⟩ := h.after hq he
  refine ⟨q, _, hq, hs, ?_⟩
  rw [hph] at hg
  have hv := hg.of_renewing.2
  generalize receivedTokens o = x at hv ⊢
  cases x with
  | ok pair => exact (congrArg Prod.snd hv).trans (Past.enter_answer _)
  | error why => exact (congrArg Prod.snd hv).trans (Past.enter_answer _)

end Pool.Shows

structure Orderly (Other : Option String → String → Prop) (routes : Routes) (tr : Traffic) :
    Prop where
  routes_eq : tr.view.context.routes = routes
  locked : tr.Locked
  sound : ∀ e ∈ tr.errands, e.Sound Other routes

/-- No tokens are being renewed, and there are none to renew. -/
structure Traffic.Idle (tr : Traffic) : Prop where
  credential : tr.view.sight.credential = none
  held : tr.held = []

namespace Orderly

variable {Other : Option String → String → Prop} {routes : Routes} {R : Rules} {tr tr' : Traffic}

theorem start (c : Console) : Orderly Other c.context.routes ⟨c.view, [], []⟩ :=
  ⟨rfl, ⟨.inl rfl, rfl⟩, List.forall_mem_nil _⟩

theorem length_renewing (h : Orderly Other routes tr) : tr.renewing.length = tr.held.length :=
  (length_flatMap_eq_countP fun e he ↦ (h.sound e he).length_renewing).trans h.locked.renewing

theorem step (h : Orderly Other routes tr) (hs : tr.Step R tr')
    (hj : ∀ j, R.admits j → j.isLogin = false) (hn : ∀ token t, some t ≠ token → Other token t)
    (hf : ∀ e ∈ tr.errands, ∀ token c r o pair,
      e.phase = .inquiring .answer c (.renewing token r) →
      R.allows tr.records e.record (.answer o) → receivedTokens o = .ok pair →
      Other token pair.access) : Orderly Other routes tr' := by
  have hl := h.locked.step hs
  cases hs with
  | join j hadmits =>
    exact ⟨h.routes_eq, hl, List.forall_mem_append.mpr
      ⟨h.sound, List.forall_mem_singleton.mpr (.start (hj j hadmits))⟩⟩
  | pass hs => exact ⟨h.routes_eq, hl, h.sound⟩
  | @turn v v' held held' before after e t p ha hg =>
    have he : e ∈ before ++ e :: after := List.mem_append_right _ List.mem_cons_self
    refine ⟨hg.abides.routes.trans h.routes_eq, hl, forall_mem_middle h.sound ?_⟩
    refine (h.sound e he).next h.routes_eq hg hn fun token c r o pair hp ht ho ↦ ?_
    exact hf e he token c r o pair hp (ht ▸ ha) ho

/-- Where there is no credential and nobody holds the lock, tokens are never renewed again. -/
theorem step_of_idle (h : Orderly Other routes tr) (hi : tr.Idle) (hs : tr.Step R tr') :
    tr'.Idle ∧ tr'.renewals = tr.renewals := by
  obtain ⟨hn, hh⟩ := hi
  cases hs with
  | join j hj => exact ⟨⟨hn, hh⟩, Traffic.renewals_join⟩
  | pass hs => exact ⟨⟨hs.credential_none hn, hh⟩, rfl⟩
  | @turn v v' held held' before after e t q ha hg =>
    have he : e ∈ before ++ e :: after := List.mem_append_right _ List.mem_cons_self
    have hm : Move e v held t (e.next t q) v' held' := (h.sound e he).moves hg
    have hheld : held = [] := hh
    cases hm with
    | idles hr hgr hv => exact ⟨⟨hv ▸ hn, hh⟩, flatMap_middle_eq hr⟩
    | leaves hr hgr hc => exact ⟨⟨hc, hh⟩, flatMap_middle_eq hr⟩
    | gives hg hr hgr hc => exact ⟨⟨hc, hh⟩, flatMap_middle_eq hr⟩
    | renews hg hr hgr hc ht =>
      rw [show v.sight.credential = none from hn] at ht
      cases ht
    | fails hw => cases hheld.symm.trans (h.locked.eq_refresh he hw)
    | gains hw => cases hheld.symm.trans (h.locked.eq_refresh he hw)

end Orderly

end Backoffice
