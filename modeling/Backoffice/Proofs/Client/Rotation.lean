import Backoffice.Proofs.Client.Renewal

namespace Backoffice

open Web (Request Response Body Outcome)
open Console

attribute [local irreducible] Routes.ofBase

def accessTokens (first : Option Credential) (given : List TokenPair) : List String :=
  (first.map Credential.access).toList ++ given.map TokenPair.access

def refreshTokens (first : Option Credential) (given : List TokenPair) : List String :=
  (first.bind Credential.refresh).toList ++ given.filterMap TokenPair.refresh

/-- Both tokens of a pair are new: neither is in the first credential or was given before. -/
structure Fresh (first : Option Credential) (given : List TokenPair) (pair : TokenPair) : Prop where
  access : pair.access ∉ accessTokens first given
  refresh : ∃ t, pair.refresh = some t ∧ t ∉ refreshTokens first given

theorem accessTokens_mono {first : Option Credential} {given given' : List TokenPair}
    (h : given ⊆ given') : accessTokens first given ⊆ accessTokens first given' :=
  List.append_subset.mpr ⟨List.subset_append_left _ _,
    List.subset_append_of_subset_right _ (List.map_subset _ h)⟩

theorem refreshTokens_mono {first : Option Credential} {given given' : List TokenPair}
    (h : given ⊆ given') : refreshTokens first given ⊆ refreshTokens first given' :=
  List.append_subset.mpr ⟨List.subset_append_left _ _,
    List.subset_append_of_subset_right _ (List.filterMap_subset _ h)⟩

instance (first : Option Credential) (given : List TokenPair) (pair : TokenPair) :
    Decidable (Fresh first given pair) :=
  decidable_of_iff (pair.access ∉ accessTokens first given ∧
    ∃ t ∈ pair.refresh, t ∉ refreshTokens first given) ⟨fun h ↦ ⟨h.1, h.2⟩, fun h ↦ ⟨h.1, h.2⟩⟩

/-- Requests only, answered with new tokens wherever tokens are given for tokens. -/
def rotating (first : Option Credential) : Rules where
  admits j := j.isRequest
  allows rs r t := r.renewing ≠ [] → ∀ o ∈ t.outcome?, ∀ pair ∈ (receivedTokens o).toOption,
    Fresh first (rs.flatMap Record.granted) pair
  clock := .expiring

instance (first : Option Credential) : DecidablePred (rotating first).setting.admits :=
  fun j ↦ inferInstanceAs (Decidable (j.isRequest = true))

instance (first : Option Credential) (rs : List Record) (r : Record) :
    DecidablePred ((rotating first).setting.allows rs r) := fun t ↦
  inferInstanceAs (Decidable (r.renewing ≠ [] → ∀ o ∈ t.outcome?,
    ∀ pair ∈ (receivedTokens o).toOption, Fresh first (rs.flatMap Record.granted) pair))

def Another (token : Option String) (t : String) : Prop := some t ≠ token

structure Rotates (first : Option Credential) (routes : Routes) (tr : Traffic) : Prop where
  orderly : Orderly Another routes tr
  stored : ∀ c, tr.view.sight.credential = some c → c.access ∈ accessTokens first tr.granted ∧
    ∀ t, c.refresh = some t →
      t ∈ refreshTokens first tr.granted ∧ (tr.held = [] → some t ∉ tr.spent)
  tokens : ∀ e ∈ tr.errands, ∀ t, e.phase.token? = some t → t ∈ accessTokens first tr.granted
  nodup : tr.spent.Nodup
  spent : ∀ x ∈ tr.spent, ∃ t ∈ refreshTokens first tr.granted, x = some t
  stuck : ∀ e ∈ tr.errands, e.Stuck →
    ∃ t ∈ accessTokens first tr.granted, Web.isHeaderValue t = false
  failed : (∃ e ∈ tr.errands, e.phase.Failed) → tr.view.sight.credential = none ∧ tr.held = []

namespace Rotates

variable {first : Option Credential} {routes : Routes} {v v' : View} {held held' : List Gate}
  {before after : List Errand} {e e' : Errand} {t : Turn}

theorem start (c : Console) :
    Rotates c.view.sight.credential c.context.routes ⟨c.view, [], []⟩ := by
  refine ⟨.start c, fun d hd ↦ ?_, List.forall_mem_nil _, List.nodup_nil, List.forall_mem_nil _,
    List.forall_mem_nil _, fun hf ↦ ?_⟩
  · have hd : c.view.sight.credential = some d := hd
    rw [accessTokens, refreshTokens, hd]
    refine ⟨List.mem_append_left _ List.mem_cons_self, fun t ht ↦
      ⟨List.mem_append_left _ ?_, fun _ ↦ List.not_mem_nil⟩⟩
    rw [Option.bind_some, ht]
    exact List.mem_cons_self
  · obtain ⟨e, he, -⟩ := hf
    cases he

theorem join (h : Rotates first routes ⟨v, held, before⟩) {j : Job}
    (ho : Orderly Another routes ⟨v, held, before ++ [.start j]⟩) :
    Rotates first routes ⟨v, held, before ++ [.start j]⟩ := by
  have hr : Traffic.renewals ⟨v, held, before ++ [.start j]⟩ = Traffic.renewals ⟨v, held, before⟩ :=
    Traffic.renewals_join
  have hg : Traffic.granted ⟨v, held, before ++ [.start j]⟩ = Traffic.granted ⟨v, held, before⟩ :=
    Traffic.granted_join
  refine {
    orderly := ho
    stored := ?stored
    tokens := ?tokens
    nodup := ?nodup
    spent := ?spent
    stuck := ?stuck
    failed := fun hf ↦ ?failed }
  case stored =>
    rw [hg, Traffic.spent, hr]
    exact h.stored
  case tokens =>
    rw [hg]
    exact List.forall_mem_append.mpr ⟨h.tokens, List.forall_mem_singleton.mpr nofun⟩
  case nodup =>
    rw [Traffic.spent, hr]
    exact h.nodup
  case spent =>
    rw [hg, Traffic.spent, hr]
    exact h.spent
  case stuck =>
    rw [hg]
    exact List.forall_mem_append.mpr
      ⟨h.stuck, List.forall_mem_singleton.mpr fun hu ↦ absurd rfl hu.refused⟩
  case failed =>
    obtain ⟨x, hx, why, hf⟩ := hf
    rcases List.mem_append.mp hx with hx | hx
    · exact h.failed ⟨x, hx, why, hf⟩
    · rw [List.mem_singleton.mp hx] at hf
      cases hf

theorem pass (h : Rotates first routes ⟨v, held, before⟩) {k : Clock} {s : Sight}
    (hs : v.sight.Ages k s) (ho : Orderly Another routes ⟨⟨s, v.context⟩, held, before⟩) :
    Rotates first routes ⟨⟨s, v.context⟩, held, before⟩ where
  orderly := ho
  stored c hc := by
    obtain ⟨d, hd, ha, hr⟩ := hs.credential hc
    obtain ⟨hi, ht⟩ := h.stored d hd
    exact ⟨ha ▸ hi, fun t he ↦ ht t (hr t he)⟩
  tokens := h.tokens
  nodup := h.nodup
  spent := h.spent
  stuck := h.stuck
  failed hf := ⟨hs.credential_none (h.failed hf).1, (h.failed hf).2⟩

theorem failed_of_middle (hf : ¬e'.phase.Failed)
    (h : ∃ x ∈ before ++ e' :: after, x.phase.Failed) :
    ∃ x ∈ before ++ e :: after, x.phase.Failed := by
  obtain ⟨x, hx, hf'⟩ := h
  refine ⟨x, ?_, hf'⟩
  rw [List.mem_append, List.mem_cons] at hx ⊢
  rcases hx with hx | rfl | hx
  · exact .inl hx
  · exact absurd hf' hf
  · exact .inr (.inr hx)

theorem turn_of_kept (h : Rotates first routes ⟨v, held, before ++ e :: after⟩)
    (ho : Orderly Another routes ⟨v', held', before ++ e' :: after⟩)
    (hr : e'.record.renewals = e.record.renewals) (hg : e'.record.granted = e.record.granted)
    (hc : ∀ c, v'.sight.credential = some c → v.sight.credential = some c ∧ held' = held)
    (hs : ∀ t, e'.phase.token? = some t →
      t ∈ accessTokens first (Traffic.granted ⟨v, held, before ++ e :: after⟩))
    (hu : e'.Stuck → ∃ t ∈ accessTokens first (Traffic.granted ⟨v, held, before ++ e :: after⟩),
      Web.isHeaderValue t = false)
    (hf : (∃ x ∈ before ++ e' :: after, x.phase.Failed) →
      v'.sight.credential = none ∧ held' = []) :
    Rotates first routes ⟨v', held', before ++ e' :: after⟩ := by
  have hrenewals : Traffic.renewals ⟨v', held', before ++ e' :: after⟩ =
      Traffic.renewals ⟨v, held, before ++ e :: after⟩ := flatMap_middle_eq hr
  have hspent : Traffic.spent ⟨v', held', before ++ e' :: after⟩ =
      Traffic.spent ⟨v, held, before ++ e :: after⟩ := congrArg (List.map _) hrenewals
  have hgranted : Traffic.granted ⟨v', held', before ++ e' :: after⟩ =
      Traffic.granted ⟨v, held, before ++ e :: after⟩ := flatMap_middle_eq hg
  refine {
    orderly := ho
    stored := fun c hc' ↦ ?stored
    tokens := ?tokens
    nodup := ?nodup
    spent := ?spent
    stuck := ?stuck
    failed := hf }
  case stored =>
    obtain ⟨hs', rfl⟩ := hc c hc'
    rw [hgranted, hspent]
    exact h.stored c hs'
  case tokens =>
    rw [hgranted]
    exact forall_mem_middle h.tokens hs
  case nodup =>
    rw [hspent]
    exact h.nodup
  case spent =>
    rw [hspent, hgranted]
    exact h.spent
  case stuck =>
    rw [hgranted]
    exact forall_mem_middle h.stuck hu

theorem turn_of_renews (h : Rotates first routes ⟨v, held, before ++ e :: after⟩)
    (ho : Orderly Another routes ⟨v', .refresh :: held, before ++ e' :: after⟩) {token : String}
    {r : Request} (hg : Gate.refresh ∉ held) (hr : e'.record.renewals = r :: e.record.renewals)
    (hgr : e'.record.granted = e.record.granted) (hc : v'.sight.credential = v.sight.credential)
    (ht : v.sight.credential.bind Credential.refresh = some token)
    (hq : r.refreshToken? = some token) (hf : ¬e'.phase.Failed)
    (hs : e'.phase.token? = e.phase.token?) (hu : ¬e'.Stuck) :
    Rotates first routes ⟨v', .refresh :: held, before ++ e' :: after⟩ := by
  have he : e ∈ before ++ e :: after := List.mem_append_right _ List.mem_cons_self
  have hgranted : Traffic.granted ⟨v', .refresh :: held, before ++ e' :: after⟩ =
      Traffic.granted ⟨v, held, before ++ e :: after⟩ := flatMap_middle_eq hgr
  have hrenewals : (Traffic.renewals ⟨v', .refresh :: held, before ++ e' :: after⟩).Perm
      (r :: Traffic.renewals ⟨v, held, before ++ e :: after⟩) := flatMap_middle_perm hr
  have hspent : (Traffic.spent ⟨v', .refresh :: held, before ++ e' :: after⟩).Perm
      (some token :: Traffic.spent ⟨v, held, before ++ e :: after⟩) := by
    have hs := hrenewals.map Web.Request.refreshToken?
    rwa [List.map_cons, hq] at hs
  obtain ⟨c, hc', ht'⟩ := Option.bind_eq_some_iff.mp ht
  obtain ⟨hi, hnew⟩ := (h.stored c hc').2 token ht'
  refine {
    orderly := ho
    stored := fun d hd ↦ ?stored
    tokens := ?tokens
    nodup := ?nodup
    spent := fun x hx ↦ ?spent
    stuck := ?stuck
    failed := fun hf' ↦ ?failed }
  case stored =>
    rw [hgranted]
    obtain ⟨ha, hr⟩ := h.stored d (hc ▸ hd)
    exact ⟨ha, fun t ht ↦ ⟨(hr t ht).1, nofun⟩⟩
  case tokens =>
    rw [hgranted]
    exact forall_mem_middle h.tokens fun x hx ↦ h.tokens e he x (hs ▸ hx)
  case nodup =>
    have hheld : held = [] := h.orderly.locked.eq_nil hg
    exact hspent.nodup_iff.mpr (List.nodup_cons.mpr ⟨hnew hheld, h.nodup⟩)
  case spent =>
    rw [hgranted]
    rcases List.mem_cons.mp (hspent.mem_iff.mp hx) with rfl | hx
    · exact ⟨token, hi, rfl⟩
    · exact h.spent x hx
  case stuck =>
    rw [hgranted]
    exact forall_mem_middle h.stuck fun hu' ↦ absurd hu' hu
  case failed =>
    -- Where a request failed there is no credential left to renew.
    obtain ⟨hnone, -⟩ := h.failed (failed_of_middle hf hf')
    cases hc'.symm.trans hnone

theorem turn_of_gains (h : Rotates first routes ⟨v, [.refresh], before ++ e :: after⟩)
    (ho : Orderly Another routes ⟨v', [], before ++ e' :: after⟩) {o : Outcome} {pair : TokenPair}
    (hr : e'.record.renewals = e.record.renewals) (hgr : e'.record.granted = pair :: e.record.granted)
    (hp : receivedTokens o = .ok pair)
    (hn : Fresh first (Traffic.granted ⟨v, [.refresh], before ++ e :: after⟩) pair)
    (hc : v'.sight = v.sight.writeTokens pair v.sight.remembers) (hf : ¬e'.phase.Failed)
    (hs : e'.phase.token? = none) (hu : e'.Stuck → Web.isHeaderValue pair.access = false) :
    Rotates first routes ⟨v', [], before ++ e' :: after⟩ := by
  have hrenewals : Traffic.renewals ⟨v', [], before ++ e' :: after⟩ =
      Traffic.renewals ⟨v, [.refresh], before ++ e :: after⟩ := flatMap_middle_eq hr
  have hspent : Traffic.spent ⟨v', [], before ++ e' :: after⟩ =
      Traffic.spent ⟨v, [.refresh], before ++ e :: after⟩ := congrArg (List.map _) hrenewals
  have hgranted : (Traffic.granted ⟨v', [], before ++ e' :: after⟩).Perm
      (pair :: Traffic.granted ⟨v, [.refresh], before ++ e :: after⟩) := flatMap_middle_perm hgr
  have hmono : Traffic.granted ⟨v, [.refresh], before ++ e :: after⟩ ⊆
      Traffic.granted ⟨v', [], before ++ e' :: after⟩ :=
    fun x hx ↦ hgranted.mem_iff.mpr (List.mem_cons_of_mem _ hx)
  have hpair : pair ∈ Traffic.granted ⟨v', [], before ++ e' :: after⟩ :=
    hgranted.mem_iff.mpr List.mem_cons_self
  obtain ⟨-, token, htoken, hnew⟩ := hn
  refine {
    orderly := ho
    stored := fun d hd ↦ ?stored
    tokens := ?tokens
    nodup := ?nodup
    spent := fun x hx ↦ ?spent
    stuck := ?stuck
    failed := fun hf' ↦ ?failed }
  -- What is stored now is the new pair. Its refresh token was not spent, since it is fresh.
  case stored =>
    obtain ⟨hna, hnr⟩ := receivedTokens_ne hp
    have hd' : v'.sight.credential = some d := hd
    rw [hc, Sight.credential_writeTokens _ hna hnr, htoken] at hd'
    cases hd'
    refine ⟨List.mem_append_right _ (List.mem_map_of_mem hpair), fun t ht ↦ ?_⟩
    cases ht
    refine ⟨List.mem_append_right _ (List.mem_filterMap.mpr ⟨pair, hpair, htoken⟩), fun _ hx ↦ ?_⟩
    rw [hspent] at hx
    obtain ⟨t, ht, he⟩ := h.spent _ hx
    cases he
    exact hnew ht
  case tokens =>
    refine forall_mem_middle (fun x hx t ht ↦ accessTokens_mono hmono (h.tokens x hx t ht))
      fun x hx ↦ ?_
    cases hs.symm.trans hx
  case nodup =>
    rw [hspent]
    exact h.nodup
  case spent =>
    rw [hspent] at hx
    obtain ⟨t, ht, he⟩ := h.spent x hx
    exact ⟨t, refreshTokens_mono hmono ht, he⟩
  case stuck =>
    refine forall_mem_middle (e := e) (fun x hx hu ↦ ?_) fun hu' ↦
      ⟨pair.access, List.mem_append_right _ (List.mem_map_of_mem hpair), hu hu'⟩
    obtain ⟨t, ht, hx⟩ := h.stuck x hx hu
    exact ⟨t, accessTokens_mono hmono ht, hx⟩
  case failed =>
    -- A request that failed has left the lock free.
    cases (h.failed (failed_of_middle hf hf')).2

theorem turn (h : Rotates first routes ⟨v, held, before ++ e :: after⟩)
    (hm : Move e v held t e' v' held')
    (ho : Orderly Another routes ⟨v', held', before ++ e' :: after⟩)
    (hn : ∀ o pair, t = .answer o → e.phase.isRenewing = true → receivedTokens o = .ok pair →
      Fresh first (Traffic.granted ⟨v, held, before ++ e :: after⟩) pair) :
    Rotates first routes ⟨v', held', before ++ e' :: after⟩ := by
  have he : e ∈ before ++ e :: after := List.mem_append_right _ List.mem_cons_self
  have hnone : v'.sight.credential = none → ∀ c, v'.sight.credential = some c →
      v.sight.credential = some c ∧ held' = held := by
    intro hc c hc'
    cases hc.symm.trans hc'
  have htoken : ∀ {P : String → Prop}, e'.phase.token? = none →
      ∀ t, e'.phase.token? = some t → P t := by
    intro P hs t ht
    cases hs.symm.trans ht
  cases hm with
  | idles hr hg hv hf hs hu =>
    subst hv
    refine h.turn_of_kept ho hr hg (fun c hc ↦ ⟨hc, rfl⟩) (fun x hx ↦ ?_) (fun hs' ↦ ?_) fun hf' ↦
      h.failed (failed_of_middle hf hf')
    · rcases hs x hx with hx | hx
      · obtain ⟨c, hc, rfl⟩ := Option.map_eq_some_iff.mp hx
        exact (h.stored c hc).1
      · exact h.tokens e he x hx
    · obtain ⟨c, hc, hx⟩ := hu hs'
      exact ⟨c.access, (h.stored c hc).1, hx⟩
  | leaves hr hg hc hf hs hu =>
    exact h.turn_of_kept ho hr hg (hnone hc) (htoken hs) (fun hu' ↦ absurd hu' hu) fun hf' ↦
      ⟨hc, (h.failed (failed_of_middle hf hf')).2⟩
  | gives hg hr hgr hc hs hu =>
    exact h.turn_of_kept ho hr hgr (hnone hc) (htoken hs) (fun hu' ↦ absurd hu' hu) fun _ ↦
      ⟨hc, h.orderly.locked.eq_nil hg⟩
  | fails hw hr hgr hc hs hu =>
    have hlock : held = [.refresh] := h.orderly.locked.eq_refresh he hw
    exact h.turn_of_kept ho hr hgr (hnone hc) (htoken hs) (fun hu' ↦ absurd hu' hu) fun _ ↦
      ⟨hc, by rw [hlock]; rfl⟩
  | renews hg hr hgr hc ht hq hf hs hu => exact h.turn_of_renews ho hg hr hgr hc ht hq hf hs hu
  | gains hw hr hgr ht hp hc hf hs hu =>
    have hlock : held = [.refresh] := h.orderly.locked.eq_refresh he hw
    subst hlock
    exact h.turn_of_gains ho hr hgr hp (hn _ _ ht hw hp) hc hf hs hu

theorem fresh_of_allowed {tr : Traffic} (h : Rotates first routes tr) (he : e ∈ tr.errands)
    {o : Outcome} {pair : TokenPair} (hr : e.phase.isRenewing = true)
    (ha : (rotating first).allows tr.records e.record (.answer o))
    (ho : receivedTokens o = .ok pair) : Fresh first tr.granted pair := by
  have hw : e.record.renewing ≠ [] := by
    have hl := (h.orderly.sound e he).length_renewing
    rw [if_pos hr] at hl
    exact List.ne_nil_of_length_eq_add_one hl
  have hf := ha hw o rfl pair (by rw [ho]; rfl)
  rwa [Traffic.records, List.flatMap_map] at hf

theorem step {tr tr' : Traffic} (h : Rotates first routes tr) (hs : tr.Step (rotating first) tr') :
    Rotates first routes tr' := by
  have ho : Orderly Another routes tr' := by
    refine h.orderly.step hs (fun j hj ↦ ?_) (fun _ _ ↦ id) fun e he token c r o pair hp ha ho ↦ ?_
    · cases j with
      | login => cases hj
      | _ => rfl
    · have hf := h.fresh_of_allowed he (by rw [hp]; rfl) ha ho
      -- The token that was refused had been given before, so the new one is another.
      intro hx
      exact hf.access (h.tokens e he _ (by rw [hp, hx]; rfl))
  cases hs with
  | join j hj => exact h.join ho
  | pass hs => exact h.pass hs ho
  | @turn v v' held held' before after e t p ha hg =>
    have he : e ∈ before ++ e :: after := List.mem_append_right _ List.mem_cons_self
    refine h.turn ((h.orderly.sound e he).moves hg) ho fun o pair ht hr hp ↦ ?_
    exact h.fresh_of_allowed he hr (ht ▸ ha) hp

theorem later {tr tr' : Traffic} (h : Rotates first routes tr)
    (hl : tr.Later (rotating first) tr') : Rotates first routes tr' := by
  induction hl with
  | refl => exact h
  | tail _ hs ih => exact ih.step hs

end Rotates

/-- How a request goes on whose first call was refused, among those that began with the credential
`held`: it is made once more with another token and comes to what that call does; or no tokens could be
had; or the other token cannot be sent. -/
structure Retries (held : Option Credential) (p : Crowd) (m : Member Job Gate Console Reply)
    (refused : Request) : Prop where
  once : m.record.retries.length ≤ 1
  other : ∀ r ∈ m.record.retries, ∃ t,
    r = { refused with auth := some (bearer t) } ∧ refused.auth ≠ some (bearer t)
  ends : ∀ reply, m.result? = some reply →
    (∃ x, m.log.head? = some x ∧ m.record.retries = [x.request] ∧
      reply = .answer (received x.outcome)) ∨
    m.record.retries = [] ∧ ((∃ why, reply = .answer (.error (.refreshFailed why))) ∨
      reply = .answer (.error .invalidRequest) ∧
        ∃ t ∈ accessTokens held (p.records.flatMap Record.granted), Web.isHeaderValue t = false)

namespace Rotates

variable {first : Option Credential} {routes : Routes} {tr tr' : Traffic} {p : Crowd} {e : Errand}

theorem later_of_idle (h : Rotates first routes tr) (hi : tr.Idle)
    (hl : tr.Later (rotating first) tr') : tr'.renewals = tr.renewals := by
  have hlater : tr'.Idle ∧ tr'.renewals = tr.renewals := by
    induction hl with
    | refl => exact ⟨hi, rfl⟩
    | tail hl hs ih =>
      obtain ⟨hi', hr⟩ := ih
      obtain ⟨hi'', hr'⟩ := (h.later hl).orderly.step_of_idle hi' hs
      exact ⟨hi'', hr'.trans hr⟩
  exact hlater.2

/-- A task can go on, or waits for an answer, or for the lock that another gives back. -/
theorem progress (h : Rotates first routes tr) (hs : p.Shows tr) (he : e ∈ tr.errands) :
    (∃ reply, e.member.result? = some reply) ∨ e.member.record.underway ≠ [] ∨
      (∃ t, (e.member.go t p.share).isSome) ∨ tr.renewing ≠ [] := by
  have hstart : ∀ {j}, e.phase = .ready j → ∃ t, (e.member.go t p.share).isSome := by
    intro j hr
    refine ⟨.start, ?_⟩
    simp [Member.go, Errand.member, hr, Phase.strand, Strand.go]
  cases h.orderly.sound e he with
  | leaving hj hl hp => exact .inr (.inr (.inl (hstart hp)))
  | left hj hl hp => exact .inl ⟨_, by rw [Member.result?, Errand.member, hp]; rfl⟩
  | request c hj hp =>
    rcases hp.waits with ⟨reply, ho⟩ | hu | ⟨token, hq⟩ | ⟨j, hr⟩
    · exact .inl ⟨reply, by rw [Member.result?, Errand.member, ho]; rfl⟩
    · exact .inr (.inl (by rwa [e.record_member]))
    · rcases h.orderly.locked.held with hh | hh
      · refine .inr (.inr (.inl ⟨.grant, ?_⟩))
        have hg : Gate.refresh ∉ p.share.held := by
          rw [hs.held, hh]
          exact List.not_mem_nil
        simp [Member.go, Errand.member, hq, Phase.strand, Inquiry.strand, Strand.go, hg]
      · refine .inr (.inr (.inr fun hw ↦ ?_))
        have hl := h.orderly.length_renewing
        rw [hw, hh] at hl
        cases hl
    · exact .inr (.inr (.inl (hstart hr)))

theorem retries (h : Rotates first routes tr) (hs : p.Shows tr) (he : e ∈ tr.errands) {x : Exchange}
    (hx : e.log.getLast? = some x) (hu : ∃ a, x.outcome = some a ∧ a.status = unauthorized) :
    Retries first p e.member x.request := by
  cases h.orderly.sound e he with
  | leaving hj hl | left hj hl =>
    rw [hl] at hx
    cases hx
  | request c hj hp =>
    rcases hp.retries (fun _ _ ↦ id) hx hu with ⟨hn, ho⟩ | ⟨t, r, hr, he', hne, ho⟩
    · refine ⟨?_, ?_, fun reply hreply ↦ ?_⟩
      · rw [e.record_member, hn]
        exact Nat.zero_le 1
      · rw [e.record_member, hn]
        exact List.forall_mem_nil _
      · rw [e.record_member]
        rcases ho reply (Phase.eq_ended_of_result hreply) with hf | ⟨hstuck, hf⟩
        · exact .inr ⟨hn, .inl hf⟩
        · rw [hs.granted]
          exact .inr ⟨hn, .inr ⟨hf, h.stuck e he hstuck⟩⟩
    · refine ⟨?_, ?_, fun reply hreply ↦ ?_⟩
      · rw [e.record_member, hr]
        exact Nat.le_refl 1
      · rw [e.record_member, hr]
        intro r' hr'
        rw [List.mem_singleton.mp hr']
        exact ⟨t, he', hne⟩
      · obtain ⟨y, hy, rfl, hf⟩ := ho reply (Phase.eq_ended_of_result hreply)
        exact .inl ⟨y, hy, by rw [e.record_member, hr], hf⟩

end Rotates

/-- Requests side by side, on a store that refuses nothing, answered with new tokens wherever tokens are
given for tokens. In every order in which they take their turns, one call for new tokens is under way at
most, and no refresh token is sent in two of them. None of the requests is stuck; one whose first call
was refused is made again once, with another token, or fails. After one that failed for want of new
tokens, none are asked for. -/
theorem Crowd.rotates {c : Console} (hc : c.Reliable) (ht : c.profile.host.Timely) {p : Crowd}
    (hp : Pool.Later (rotating (Profile.credential c.profile).1).setting (.empty c) p) :
    (p.records.flatMap Record.renewing).length ≤ 1 ∧
    (∀ r ∈ p.records.flatMap Record.renewals, Renews c.context.routes r) ∧
    ((p.records.flatMap Record.renewals).map Web.Request.refreshToken?).Nodup ∧
    (∀ m ∈ p.members, m.log.length ≤ 3 ∧
      ((∃ reply, m.result? = some reply) ∨ m.record.underway ≠ [] ∨
        (∃ t, (m.go t p.share).isSome) ∨ p.records.flatMap Record.renewing ≠ [])) ∧
    (∀ m ∈ p.members, ∀ first, m.log.getLast? = some first →
      (∃ a, first.outcome = some a ∧ a.status = unauthorized) →
      Retries (Profile.credential c.profile).1 p m first.request) ∧
    ((∃ m ∈ p.members, ∃ why, m.result? = some (.answer (.error (.refreshFailed why)))) →
      ∀ q, Pool.Later (rotating (Profile.credential c.profile).1).setting p q →
        q.records.flatMap Record.renewals = p.records.flatMap Record.renewals) := by
  have hfirst : (Profile.credential c.profile).1 = c.view.sight.credential := Profile.credential_eq hc
  rw [hfirst] at hp ⊢
  obtain ⟨tr, hs, hl⟩ := hp.shows (Pool.shows_empty hc ht)
  have hr := (Rotates.start c).later hl
  rw [hs.renewing, hs.renewals]
  refine ⟨?_, fun r hm ↦ ?_, hr.nodup, fun m hm ↦ ?_, fun m hm x hx hu ↦ ?_, fun hf q hq ↦ ?_⟩
  · rw [hr.orderly.length_renewing]
    rcases hr.orderly.locked.held with hh | hh <;> simp [hh]
  · obtain ⟨e, he, hm⟩ := List.mem_flatMap.mp hm
    exact (hr.orderly.sound e he).renews_of_mem hm
  · obtain ⟨e, he, rfl⟩ := hs.mem hm
    exact ⟨(hr.orderly.sound e he).length_le, hr.progress hs he⟩
  · obtain ⟨e, he, rfl⟩ := hs.mem hm
    exact hr.retries hs he hx hu
  · obtain ⟨m, hm, why, hf⟩ := hf
    obtain ⟨e, he, rfl⟩ := hs.mem hm
    obtain ⟨hn, hh⟩ := hr.failed ⟨e, he, why, Phase.eq_ended_of_result hf⟩
    obtain ⟨tr', hs', hl'⟩ := hq.shows hs
    rw [hs'.renewals]
    exact hr.later_of_idle ⟨hn, hh⟩ hl'

/-- Two requests are refused with `a1`; one renews the tokens and both are made again with `a2`. Of two
more that are refused, one fails to renew the tokens with `r2`, and the other finds none. -/
theorem Crowd.rotates_until_refused :
    let host : Host := ⟨.empty .memory, ⟨0⟩, fun _ ↦ ⟨List.replicate 32 0, rfl⟩, 0⟩
    let profile := (Profile.setCredential ⟨"a1", some "r1"⟩ false none (.blank host)).2
    let c : Console := ⟨profile, .fresh (.ofBase "http://h") "host"⟩
    let rules := rotating (Profile.credential c.profile).1
    ∃ p, Pool.Later rules.setting (.empty c) p ∧
      (p.records.flatMap Record.renewals).map Web.Request.refreshToken? = [some "r1", some "r2"] ∧
      (p.records.flatMap Record.renewing).length ≤ 1 ∧
      (∀ m ∈ p.members, ∀ first, m.log.getLast? = some first →
        (∃ a, first.outcome = some a ∧ a.status = unauthorized) →
        Retries (Profile.credential c.profile).1 p m first.request) ∧
      ∀ q, Pool.Later rules.setting p q →
        q.records.flatMap Record.renewals = p.records.flatMap Record.renewals := by
  intro host profile c rules
  let job : Job := .request "GET" "http://h/x" .empty
  let events : List (Event Job) := [
    .join job, .join job, .turn 0 .start, .turn 1 .start,
    .turn 0 (.receive 401 ""), .turn 1 (.receive 401 ""), .turn 0 .grant,
    .turn 0 (.receive 200 "\x7b\"access_token\":\"a2\",\"refreshToken\":\"r2\"\x7d"),
    .turn 1 .grant, .turn 0 (.receive 204 ""), .turn 1 (.receive 204 ""),
    .join job, .join job, .turn 2 .start, .turn 3 .start,
    .turn 2 (.receive 401 ""), .turn 3 (.receive 401 ""), .turn 3 .grant,
    .turn 3 (.receive 401 ""), .turn 2 .grant]
  have hplay : ∃ p, Pool.Later rules.setting (.empty c) p ∧
      (p.records.flatMap Record.renewals).map Web.Request.refreshToken? = [some "r1", some "r2"] ∧
      ∃ m ∈ p.members, m.result? = some (.answer (.error (.refreshFailed .noToken))) :=
    Pool.exists_later_of_play events (by decide +kernel)
  obtain ⟨p, hp, hspent, m, hm, hf⟩ := hplay
  have hc : c.Reliable := ⟨by decide, fun _ _ _ ↦ rfl⟩
  have ht : c.profile.host.Timely := fun remember ↦ by cases remember <;> decide
  obtain ⟨hone, -, -, -, hretries, hover⟩ := Crowd.rotates hc ht hp
  exact ⟨p, hp, hspent, hone, hretries, hover ⟨m, hm, _, hf⟩⟩

/-- Where the store refuses to forget them, tokens that could not be renewed are sent again. And a
request whose new token is no header value is not made again. -/
theorem Crowd.sends_refused_token_again :
    let host : Host := ⟨.empty .memory, ⟨0⟩, fun _ ↦ ⟨List.replicate 32 0, rfl⟩, 0⟩
    let stored := (Profile.setCredential ⟨"a1", some "r1"⟩ true none (.blank host)).2
    let refuses : Nat → StoreCall → Bool := fun _ call ↦ call.name == "remove"
    let profile := { stored with host := { stored.host with
      durable := { stored.host.durable with refuses } } }
    let start (p : Profile) : Crowd := .empty ⟨p, .fresh (.ofBase "http://h") "host"⟩
    (∃ p, Pool.Later (rotating (Profile.credential profile).1).setting (start profile) p ∧
      (∃ m ∈ p.members, m.result? = some (.answer (.error (.refreshFailed (.refused 401))))) ∧
      (p.records.flatMap Record.renewals).map Web.Request.refreshToken? =
        [some "r1", some "r1"]) ∧
    ∃ p, Pool.Later (rotating (Profile.credential stored).1).setting (start stored) p ∧
      ∃ m ∈ p.members, (m.log.getLast?.bind fun e ↦ e.outcome.map Response.status) = some 401 ∧
        m.record.retries = [] ∧ m.result? = some (.answer (.error .invalidRequest)) := by
  intro host stored refuses profile start
  let job : Job := .request "GET" "http://h/x" .empty
  constructor
  · exact Pool.exists_later_of_play [.join job, .turn 0 .start, .turn 0 (.receive 401 ""),
      .turn 0 .grant, .turn 0 (.receive 401 ""), .join job, .turn 1 .start,
      .turn 1 (.receive 401 ""), .turn 1 .grant] (by decide +kernel)
  · exact Pool.exists_later_of_play [.join job, .turn 0 .start, .turn 0 (.receive 401 ""),
      .turn 0 .grant, .turn 0 (.receive 200
        "\x7b\"access_token\":\"a\\n2\",\"refreshToken\":\"r2\"\x7d")] (by decide +kernel)

end Backoffice
