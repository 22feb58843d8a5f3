import Backoffice.Proofs.Client.Renewal

namespace Backoffice

open Web (Outcome)

attribute [local irreducible] Routes.ofBase

def leaving : Rules where
  admits j := j.isLogin = false
  allows _ _ _ := True
  clock := .expiring

instance : DecidablePred leaving.setting.admits :=
  fun j ↦ inferInstanceAs (Decidable (j.isLogin = false))

instance (rs : List Record) (r : Record) : DecidablePred (leaving.setting.allows rs r) :=
  fun _ ↦ inferInstanceAs (Decidable True)

namespace Traffic

abbrev Loose (routes : Routes) (tr : Traffic) : Prop := Orderly (fun _ _ ↦ True) routes tr

structure Forgot (n : Nat) (tr : Traffic) : Prop where
  le : n ≤ tr.granted.length
  lt : ∀ d, tr.view.sight.credential = some d → n < tr.granted.length

variable {routes : Routes} {tr tr' : Traffic} {n : Nat}

theorem Loose.step (h : tr.Loose routes) (hs : tr.Step leaving tr') : tr'.Loose routes :=
  Orderly.step h hs (fun _ hj ↦ hj) (fun _ _ _ ↦ trivial) fun _ _ _ _ _ _ _ _ _ _ ↦ trivial

theorem Loose.later (h : tr.Loose routes) (hl : tr.Later leaving tr') : tr'.Loose routes := by
  induction hl with
  | refl => exact h
  | tail _ hs ih => exact ih.step hs

theorem Forgot.step (hf : tr.Forgot n) (h : tr.Loose routes) (hs : tr.Step leaving tr') :
    tr'.Forgot n := by
  obtain ⟨hle, hlt⟩ := hf
  cases hs with
  | join j hj =>
    rw [← granted_join (j := j)] at hle hlt
    exact ⟨hle, hlt⟩
  | pass hs =>
    refine ⟨hle, fun d hd ↦ ?_⟩
    obtain ⟨c, hc, -⟩ := hs.credential hd
    exact hlt c hc
  | @turn v v' held held' before after e t p ha hg =>
    have he : e ∈ before ++ e :: after := List.mem_append_right _ List.mem_cons_self
    rcases ((h.sound e he).moves hg).credential with ⟨hgr, hc⟩ | ⟨pair, hgr⟩
    · have hgranted : granted ⟨v', held', before ++ e.next t p :: after⟩ =
          granted ⟨v, held, before ++ e :: after⟩ := flatMap_middle_eq hgr
      refine ⟨hgranted ▸ hle, fun d hd ↦ ?_⟩
      rw [hgranted]
      rcases hc with hc | hc
      · cases hc.symm.trans hd
      · exact hlt d (hc.symm.trans hd)
    · have hgranted : (granted ⟨v', held', before ++ e.next t p :: after⟩).Perm
          (pair :: granted ⟨v, held, before ++ e :: after⟩) := flatMap_middle_perm hgr
      have hl := hgranted.length_eq
      rw [List.length_cons] at hl
      exact ⟨by omega, fun _ _ ↦ by omega⟩

theorem Forgot.later (hf : tr.Forgot n) (h : tr.Loose routes) (hl : tr.Later leaving tr') :
    tr'.Forgot n := by
  induction hl with
  | refl => exact hf
  | tail hl hs ih => exact ih.step (h.later hl) hs

theorem Idle.later (hi : tr.Idle) (h : tr.Loose routes) (hl : tr.Later leaving tr') : tr'.Idle := by
  induction hl with
  | refl => exact hi
  | tail hl hs ih => exact ((h.later hl).step_of_idle ih hs).1

end Traffic

namespace Pool.Shows

variable {p q : Crowd} {tr : Traffic}

theorem signOut {routes : Routes} (h : p.Shows tr) (ho : tr.Loose routes) {n : Nat}
    {m : Member Job Gate Console Reply} (hm : p.members[n]? = some m) (hj : m.job = .signOut)
    (ha : p.after leaving.setting (.turn n .start) = some q) :
    (∃ m', q.members[n]? = some m' ∧ m'.result? = some (.signedOut (.ok ()))) ∧
      ∃ tr', q.Shows tr' ∧ tr.Step leaving tr' ∧ tr'.view.sight.credential = none := by
  rw [h.getElem? n, Option.map_eq_some_iff] at hm
  obtain ⟨e, hn, rfl⟩ := hm
  obtain ⟨before, after, p', v', held', hes, hl, hr, hg, hq⟩ := h.after ha hn
  obtain ⟨v, held, errands⟩ := tr
  subst hes hl
  have hs := Traffic.Step.turn hr hg
  cases ho.sound e (List.mem_of_getElem? hn) with
  | request c hj' => cases hj'.symm.trans hj
  | left _ _ hp =>
    rw [hp] at hg
    cases hg
  | leaving _ _ hp =>
    rw [hp] at hg
    cases hg
    refine ⟨⟨(e.next .start (.ended (.signedOut (.ok ())))).member, ?_, rfl⟩, _, hq, hs,
      Sight.credential_clearCredential v.sight⟩
    rw [hq.getElem?, List.getElem?_append_right (Nat.le_refl _), Nat.sub_self]
    rfl

theorem renewed {routes : Routes} (h : p.Shows tr) (ho : tr.Loose routes) {n : Nat}
    {m : Member Job Gate Console Reply} (hm : p.members[n]? = some m) (hw : m.record.renewing ≠ [])
    {o : Outcome} {pair : TokenPair} (hp : receivedTokens o = .ok pair) :
    ∃ q d, p.after leaving.setting (.turn n (.answer o)) = some q ∧
      (Profile.credential q.share.state.profile).1 = some d ∧ d.access = pair.access := by
  rw [h.getElem? n, Option.map_eq_some_iff] at hm
  obtain ⟨e, hn, rfl⟩ := hm
  rw [e.record_member] at hw
  cases ho.sound e (List.mem_of_getElem? hn) with
  | leaving _ hl | left _ hl => simp [Errand.record, Record.renewing, hl] at hw
  | request c _ hpast =>
    obtain ⟨q, tr', ha, hq, hv⟩ := h.after_renewing (R := leaving) hn hpast hw (o := o) trivial
    obtain ⟨hna, hnr⟩ := receivedTokens_ne hp
    have hd := tr.view.sight.credential_writeTokens hna hnr tr.view.sight.remembers
    simp only [hp] at hv
    exact ⟨q, _, ha, (hq.credential.trans (by rw [hv])).trans hd, rfl⟩

end Pool.Shows

/-- A logout beside requests, on a store that refuses nothing, in every order in which they take their
turns. It is over at once and leaves no credential behind. There is one again only if a call for new
tokens was under way then, and only after tokens were given for tokens. And an answer that gives them does
bring one, though nobody has signed in again. -/
theorem Crowd.credential_after_signOut {c : Console} (hc : c.Reliable) (ht : c.profile.host.Timely)
    {p p' : Crowd} (hp : Pool.Later leaving.setting (.empty c) p) {n : Nat}
    {m : Member Job Gate Console Reply} (hm : p.members[n]? = some m) (hj : m.job = .signOut)
    (ha : p.after leaving.setting (.turn n .start) = some p') :
    (∃ m', p'.members[n]? = some m' ∧ m'.result? = some (.signedOut (.ok ()))) ∧
    (∀ q, Pool.Later leaving.setting p' q → ∀ d, (Profile.credential q.share.state.profile).1 = some d →
      p'.records.flatMap Record.renewing ≠ [] ∧
      (p'.records.flatMap Record.granted).length < (q.records.flatMap Record.granted).length) ∧
    ∀ q, Pool.Later leaving.setting p' q → ∀ k w, q.members[k]? = some w → w.record.renewing ≠ [] →
      ∀ o pair, receivedTokens o = .ok pair →
        ∃ q' d, q.after leaving.setting (.turn k (.answer o)) = some q' ∧
          (Profile.credential q'.share.state.profile).1 = some d ∧ d.access = pair.access := by
  obtain ⟨tr, hs, hl⟩ := hp.shows (Pool.shows_empty hc ht)
  have ho : tr.Loose c.context.routes := Traffic.Loose.later (Orderly.start c) hl
  obtain ⟨hover, tr', hs', hstep, hnone⟩ := hs.signOut ho hm hj ha
  have ho' : tr'.Loose c.context.routes := ho.step hstep
  refine ⟨hover, fun q hq d hd ↦ ?_, fun q hq k w hk hw o pair hpair ↦ ?_⟩
  · obtain ⟨tr'', hs'', hl'⟩ := hq.shows hs'
    rw [hs''.credential] at hd
    constructor
    · intro hw
      -- The lock is held just as long as a call for new tokens is under way.
      have hh : tr'.held = [] := by
        have hlen := ho'.length_renewing
        rw [← hs'.renewing, hw] at hlen
        exact List.eq_nil_of_length_eq_zero hlen.symm
      have hi : tr''.Idle := Traffic.Idle.later ⟨hnone, hh⟩ ho' hl'
      cases hi.credential.symm.trans hd
    · have hf : tr'.Forgot tr'.granted.length := by
        refine ⟨Nat.le_refl _, fun d hd ↦ ?_⟩
        cases hnone.symm.trans hd
      rw [hs'.granted, hs''.granted]
      exact (hf.later ho' hl').lt d hd
  · obtain ⟨tr'', hs'', hl'⟩ := hq.shows hs'
    exact hs''.renewed (ho'.later hl') hk hw hpair

/-- A request asks for new tokens, and the user signs out. Then the answer with `a2` comes, and `a2` is
stored. -/
theorem Crowd.credential_after_signOut_of_late_answer :
    let host : Host := ⟨.empty .memory, ⟨0⟩, fun _ ↦ ⟨List.replicate 32 0, rfl⟩, 0⟩
    let profile := (Profile.setCredential ⟨"a1", some "r1"⟩ true none (.blank host)).2
    let c : Console := ⟨profile, .fresh (.ofBase "http://h") "host"⟩
    ∃ p p', Pool.Later leaving.setting (.empty c) p ∧
      p.after leaving.setting (.turn 1 .start) = some p' ∧
      (∃ m', p'.members[1]? = some m' ∧ m'.result? = some (.signedOut (.ok ()))) ∧
      (Profile.credential p'.share.state.profile).1 = none ∧
      ∃ q d, Pool.Later leaving.setting p' q ∧ (Profile.credential q.share.state.profile).1 = some d ∧
        d.access = "a2" := by
  intro host profile c
  let answer := "\x7b\"access_token\":\"a2\",\"refreshToken\":\"r2\"\x7d"
  let late : Outcome := some ⟨200, answer.toUTF8.data.toList⟩
  let events : List (Event Job) := [.join (.request "GET" "http://h/x" .empty), .join .signOut,
    .turn 0 .start, .turn 0 (.receive 401 ""), .turn 0 .grant]
  have hplay : ∃ p, Pool.Later leaving.setting (.empty c) p ∧
      (∃ m ∈ p.members[1]?, (m.job matches .signOut) = true) ∧
      ∃ p' ∈ p.after leaving.setting (.turn 1 .start), ∃ w ∈ p'.members[0]?, w.record.renewing ≠ [] :=
    Pool.exists_later_of_play events (by decide +kernel)
  obtain ⟨p, hp, ⟨m, hm, hj⟩, p', ha, w, hk, hw⟩ := hplay
  have hj : m.job = .signOut := by
    split at hj
    · assumption
    · cases hj
  have hc : c.Reliable := ⟨by decide, fun _ _ _ ↦ rfl⟩
  have ht : c.profile.host.Timely := fun remember ↦ by cases remember <;> decide
  obtain ⟨hover, hnone, hlate⟩ := Crowd.credential_after_signOut hc ht hp hm hj ha
  have hpair : receivedTokens late = .ok ⟨"a2", some "r2"⟩ := by decide +kernel
  obtain ⟨q, d, hq, hd, hd'⟩ := hlate p' .refl 0 w hk hw late _ hpair
  refine ⟨p, p', hp, ha, hover, ?_, q, d, .single (Pool.step_of_after hq), hd, hd'⟩
  rw [Option.eq_none_iff_forall_not_mem]
  exact fun d hd ↦ Nat.lt_irrefl _ (hnone p' .refl d hd).2

end Backoffice
