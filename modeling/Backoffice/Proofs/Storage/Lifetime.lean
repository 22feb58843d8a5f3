import Mathlib.Logic.Relation
import Backoffice.Proofs.Storage.Reopening

namespace Backoffice

open Time (Instant)

inductive TokenEvent where
  | login (t : Instant) (access : String) (remember : Bool)
  | refresh (t : Instant) (access : String)
  | clear
  | reopen

namespace TokenEvent

/-- Whether the user is to be remembered, by the last login that nothing has cleared. -/
def chosen : List TokenEvent → Option Bool
  | [] => none
  | login _ _ remember :: _ => some remember
  | clear :: _ => none
  | refresh _ _ :: es => chosen es
  | reopen :: es => chosen es

def written : List TokenEvent → Option (Instant × String)
  | [] => none
  | login t access _ :: _ => some (t, access)
  | refresh t access :: _ => some (t, access)
  | clear :: es => written es
  | reopen :: es => written es

def reopened : List TokenEvent → Bool
  | [] => false
  | login _ _ _ :: _ => false
  | reopen :: _ => true
  | refresh _ _ :: es => reopened es
  | clear :: es => reopened es

/-- The cookie of the access token at some time after the events. -/
def cookie (es : List TokenEvent) (now : Instant) : Option Cookie :=
  match chosen es, written es with
  | some remember, some (t, access) =>
    let expiry := (ExpiryPolicy.ofRemember remember).expiresAt t
    if isLive expiry now && (remember || !reopened es) then some ⟨access, expiry⟩ else none
  | _, _ => none

theorem exists_written {es : List TokenEvent} {remember : Bool} (h : chosen es = some remember) :
    ∃ t access, written es = some (t, access) := by
  induction es with
  | nil => cases h
  | cons e es ih =>
    cases e with
    | login t access _ | refresh t access => exact ⟨t, access, rfl⟩
    | clear => cases h
    | reopen => exact ih h

end TokenEvent

open TokenEvent

namespace ExpiryPolicy

theorem isLive_expiresAt (remember : Bool) (now : Instant) :
    isLive ((ofRemember remember).expiresAt now) now = true := by
  cases remember with
  | false => rfl
  | true => exact decide_eq_true (Instant.lt_addDays (by decide) now)

theorem isSome_expiresAt (remember : Bool) (t : Instant) :
    ((ofRemember remember).expiresAt t).isSome = remember := by
  cases remember <;> rfl

end ExpiryPolicy

namespace TokenEvent

variable {es : List TokenEvent} {now t : Instant}

theorem cookie_later (h : now.nanos ≤ t.nanos) :
    (cookie es now).filter (fun c ↦ isLive c.expiry t) = cookie es t := by
  simp only [cookie]
  split
  · next remember t' access _ _ =>
    cases hl : isLive ((ExpiryPolicy.ofRemember remember).expiresAt t') t with
    | true =>
      rw [isLive_mono h hl]
      cases hb : remember || !reopened es <;> simp [hl]
    | false =>
      simp only [Bool.false_and, Bool.false_eq_true, if_false]
      split
      · exact Option.filter_some_neg (by simp [hl])
      · rfl
  · rfl

theorem cookie_reopen :
    (cookie es now).filter (fun c ↦ c.expiry.isSome) = cookie (.reopen :: es) now := by
  simp only [cookie, chosen, written, reopened]
  split
  · next remember t' access _ _ =>
    have he := ExpiryPolicy.isSome_expiresAt remember t'
    cases isLive ((ExpiryPolicy.ofRemember remember).expiresAt t') now with
    | false => rfl
    | true => cases remember <;> cases reopened es <;> simp_all
  · rfl

theorem cookie_login (access : String) (remember : Bool) :
    cookie (.login now access remember :: es) now =
      some ⟨access, (ExpiryPolicy.ofRemember remember).expiresAt now⟩ := by
  simp [cookie, chosen, written, reopened, ExpiryPolicy.isLive_expiresAt]

theorem cookie_refresh {remember : Bool} (hc : chosen es = some remember)
    (hr : remember = true ∨ reopened es = false) (access : String) :
    cookie (.refresh now access :: es) now =
      some ⟨access, (ExpiryPolicy.ofRemember remember).expiresAt now⟩ := by
  have hb : (remember || !reopened es) = true := by
    rcases hr with rfl | hr
    · rfl
    · rw [hr]
      exact Bool.or_true _
  simp [cookie, chosen, written, reopened, hc, hb, ExpiryPolicy.isLive_expiresAt]

/-- A cookie is there by the choice of a user, and before the end of the session or with an expiry. -/
theorem of_cookie_isSome (h : (cookie es now).isSome) :
    ∃ remember, chosen es = some remember ∧ (remember = true ∨ reopened es = false) := by
  simp only [cookie] at h
  split at h
  · next remember t' access hc _ =>
    refine ⟨remember, hc, ?_⟩
    split at h
    · next hb =>
      rw [Bool.and_eq_true, Bool.or_eq_true, Bool.not_eq_true'] at hb
      exact hb.2
    · cases h
  · cases h

/-- After a reopening the cookie is one that is kept for thirty days. -/
theorem isSome_cookie_iff (hr : reopened es = true) : (cookie es now).isSome ↔
    chosen es = some true ∧ ∃ t access, written es = some (t, access) ∧ now < t.addDays 30 := by
  cases hc : chosen es with
  | none => simp [cookie, hc]
  | some remember =>
    obtain ⟨t, access, hw⟩ := exists_written hc
    cases remember with
    | false => simp [cookie, hc, hw, hr]
    | true =>
      simp [cookie, hc, hw, ExpiryPolicy.ofRemember, ExpiryPolicy.expiresAt, ExpiryPolicy.rememberDays,
        isLive]

theorem isSome_cookie (hr : reopened es = false) (hc : chosen es = some false) :
    (cookie es now).isSome := by
  obtain ⟨t, access, hw⟩ := exists_written hc
  simp [cookie, hc, hw, hr, ExpiryPolicy.ofRemember, ExpiryPolicy.expiresAt, isLive]

end TokenEvent

namespace Sight

open Profile

theorem cookies_setCredential (s : Sight) (tokens : TokenPair) (remember : Bool)
    (payload : Option LoginPayload) :
    (s.setCredential tokens remember payload).cookies = (s.writeTokens tokens remember).cookies := by
  simp only [setCredential]
  cases payload <;> rfl

theorem cookies_clearCredential (s : Sight) : s.clearCredential.cookies accessCookie = none := by
  simp [clearCredential, setCookie, keep]

theorem remembers_setCredential (s : Sight) (tokens : TokenPair) (remember : Bool)
    (payload : Option LoginPayload) :
    (s.setCredential tokens remember payload).remembers = remember := by
  cases payload <;> cases remember <;> rfl

theorem isSome_credential {s : Sight} (h : ∀ c, s.cookies accessCookie = some c → c.value ≠ "") :
    s.credential.isSome = (s.cookies accessCookie).isSome := by
  rw [credential, Option.isSome_map, token]
  cases hc : s.cookies accessCookie with
  | none => rfl
  | some c =>
    rw [Option.map_some, nonempty?_of_ne (h c hc)]
    rfl

theorem cookie_of_credential {s : Sight} {c : Credential} (h : s.credential = some c) :
    ∃ k, s.cookies accessCookie = some k ∧ k.value = c.access := by
  have ht := (credential_eq_some h).1
  rw [token] at ht
  cases hc : s.cookies accessCookie with
  | none =>
    rw [hc] at ht
    cases ht
  | some k =>
    simp only [hc, Option.map_some, nonempty?] at ht
    split at ht
    · cases ht
    · exact ⟨k, rfl, Option.some.inj ht⟩

end Sight

namespace Profile

variable {p p' : Profile} {es : List TokenEvent}

/-- Work that leaves the tokens alone, as time passes. -/
inductive Idles : Profile → Profile → Prop
  | wait {p : Profile} (t : Instant) (h : p.now.nanos ≤ t.nanos) : Idles p (p.waited t)
  | read {p : Profile} : Idles p (credential p).2
  | identify {p : Profile} : Idles p (deviceId p).2

/-- The runs of a profile that begin on a host. Only a credential that is stored is refreshed, and while
new tokens are asked for nothing else is done with it. -/
inductive Lived (host : Host) : List TokenEvent → Profile → Prop
  | start : Lived host [] (opened host).2
  | idle {es : List TokenEvent} {p p' : Profile} (h : Lived host es p) (hi : Idles p p') :
      Lived host es p'
  | login {es : List TokenEvent} {p : Profile} (h : Lived host es p) (tokens : TokenPair)
      (remember : Bool) (payload : Option LoginPayload) (ha : tokens.access ≠ "")
      (ht : ((ExpiryPolicy.ofRemember remember).expiresAt? p.now).isSome) :
      Lived host (.login p.now tokens.access remember :: es) (setCredential tokens remember payload p).2
  | refresh {es : List TokenEvent} {p₀ p : Profile} (h : Lived host es p₀)
      (hc : (credential p₀).1.isSome) (hi : Relation.ReflTransGen Idles p₀ p) (tokens : TokenPair)
      (ha : tokens.access ≠ "")
      (ht : ((ExpiryPolicy.ofRemember (rememberMe p).1).expiresAt? p.now).isSome) :
      Lived host (.refresh p.now tokens.access :: es) (replaceTokens tokens p).2
  | clear {es : List TokenEvent} {p : Profile} (h : Lived host es p) :
      Lived host (.clear :: es) (clearCredential p).2
  | reopen {es : List TokenEvent} {p : Profile} (h : Lived host es p) :
      Lived host (.reopen :: es) (opened p.host).2

structure Tells (es : List TokenEvent) (p : Profile) : Prop where
  reliable : p.Reliable
  apart : p.Apart
  cookie : p.sight.cookies accessCookie = TokenEvent.cookie es p.now
  remembers : ∀ r, chosen es = some r → p.sight.remembers = r
  access_ne : ∀ t access, written es = some (t, access) → access ≠ ""

namespace Tells

theorem of_does {α : Type} {act : StateM Profile α} {a : α} {s : Sight} {es' : List TokenEvent}
    (hd : Does act p.sight a s) (ha : StaysApart act) (h : p.Reliable ∧ p.Apart)
    (hc : s.cookies accessCookie = TokenEvent.cookie es' s.now)
    (hr : ∀ r, chosen es' = some r → s.remembers = r)
    (hn : ∀ t access, written es' = some (t, access) → access ≠ "") :
    Tells es' (act p).2 := by
  obtain ⟨p', he, hp', rfl⟩ := hd p h.1 rfl
  have hapart := ha p h.2
  rw [he] at hapart ⊢
  exact ⟨hp', hapart, hc, hr, hn⟩

theorem of_succeeds {α : Type} {act : ProfileM α} {a : α} {s : Sight} {es' : List TokenEvent}
    (hd : Succeeds act p.sight a s) (ha : StaysApart act.run) (h : p.Reliable ∧ p.Apart)
    (hc : s.cookies accessCookie = TokenEvent.cookie es' s.now)
    (hr : ∀ r, chosen es' = some r → s.remembers = r)
    (hn : ∀ t access, written es' = some (t, access) → access ≠ "") :
    Tells es' (act p).2 := of_does hd.does ha h hc hr hn

theorem idles (h : Tells es p) (hi : Idles p p') : Tells es p' := by
  cases hi with
  | wait t ht =>
    refine ⟨h.reliable, h.apart, ?_, fun r hr ↦ ?_, h.access_ne⟩
    · rw [sight_waited ht]
      refine Eq.trans ?_ (cookie_later ht)
      rw [← h.cookie]
      rfl
    · rw [sight_waited ht]
      exact h.remembers r hr
  | read =>
    exact of_does (credential_does p.sight) credential_staysApart ⟨h.reliable, h.apart⟩ h.cookie
      h.remembers h.access_ne
  | identify =>
    refine of_succeeds (deviceId_succeeds p.sight) deviceId_staysApart ⟨h.reliable, h.apart⟩ ?_ ?_
      h.access_ne
    · rw [p.sight.cookies_identified, p.sight.now_identified]
      exact h.cookie
    · rw [p.sight.remembers_identified]
      exact h.remembers

theorem value_ne (h : Tells es p) (c : Cookie) (hc : p.sight.cookies accessCookie = some c) :
    ∃ t, written es = some (t, c.value) ∧ c.value ≠ "" := by
  rw [h.cookie] at hc
  simp only [TokenEvent.cookie] at hc
  split at hc
  · next remember t access _ hw =>
    split at hc
    · cases hc
      exact ⟨t, hw, h.access_ne t access hw⟩
    · cases hc
  · cases hc

theorem isSome_credential (h : Tells es p) :
    (credential p).1.isSome = (TokenEvent.cookie es p.now).isSome := by
  rw [credential_eq h.reliable, Sight.isSome_credential fun c hc ↦ (h.value_ne c hc).choose_spec.2,
    h.cookie]

theorem start {host : Host} (hr : host.durable.Reliable) (he : host.durable.entries = []) :
    Tells [] (opened host).2 := by
  obtain ⟨p', ho, hp', ha, hs⟩ := opened_sight (p := blank host) hr (apart_blank host)
  have ho : opened host = (.ok (), p') := ho
  rw [ho]
  refine ⟨hp', ha, ?_, nofun, nofun⟩
  rw [hs]
  simp [Sight.reopened, sight, shown, blank, he, Table.get?, TokenEvent.cookie, chosen]

theorem login (h : Tells es p) (tokens : TokenPair) (remember : Bool) (payload : Option LoginPayload)
    (ha : tokens.access ≠ "")
    (ht : ((ExpiryPolicy.ofRemember remember).expiresAt? p.now).isSome) :
    Tells (.login p.now tokens.access remember :: es) (setCredential tokens remember payload p).2 := by
  refine .of_succeeds (setCredential_succeeds tokens payload ht)
    (setCredential_staysApart tokens remember payload) ⟨h.reliable, h.apart⟩ ?_ ?_ ?_
  · rw [Sight.cookies_setCredential, Sight.cookies_writeTokens, Sight.now_setCredential]
    exact (cookie_login tokens.access remember).symm
  · intro r hr
    cases hr
    exact Sight.remembers_setCredential _ _ _ _
  · intro t access hw
    cases hw
    exact ha

theorem refresh (h : Tells es p) {remember : Bool} (hc : chosen es = some remember)
    (hr : remember = true ∨ reopened es = false) (tokens : TokenPair) (ha : tokens.access ≠ "")
    (ht : ((ExpiryPolicy.ofRemember (rememberMe p).1).expiresAt? p.now).isSome) :
    Tells (.refresh p.now tokens.access :: es) (replaceTokens tokens p).2 := by
  obtain rfl := h.remembers remember hc
  obtain ⟨p', he, -, -⟩ := rememberMe_does p.sight p h.reliable rfl
  rw [he] at ht
  refine of_does (replaceTokens_does tokens ht) (replaceTokens_staysApart tokens)
    ⟨h.reliable, h.apart⟩ ?_ ?_ ?_
  · rw [Sight.cookies_writeTokens, Sight.now_writeTokens]
    exact (cookie_refresh hc hr tokens.access).symm
  · rw [Sight.remembers_writeTokens]
    exact h.remembers
  · intro t access hw
    cases hw
    exact ha

theorem clear (h : Tells es p) : Tells (.clear :: es) (clearCredential p).2 :=
  of_succeeds (clearCredential_succeeds p.sight) clearCredential_staysApart ⟨h.reliable, h.apart⟩
    p.sight.cookies_clearCredential nofun h.access_ne

theorem reopen (h : Tells es p) : Tells (.reopen :: es) (opened p.host).2 := by
  have hnow := now_opened h.reliable h.apart
  obtain ⟨p', ho, hr, ha, hs⟩ := opened_sight h.reliable h.apart
  rw [ho] at hnow ⊢
  refine ⟨hr, ha, ?_, ?_, h.access_ne⟩
  · rw [hs, hnow, ← cookie_reopen, ← h.cookie]
    rfl
  · rw [hs]
    exact h.remembers

end Tells

theorem Lived.tells {host : Host} {engine : Engine} (he : engine ≠ .missing)
    (hh : host.durable = .empty engine) (h : Lived host es p) : Tells es p := by
  induction h with
  | start =>
    refine .start ?_ ?_
    · rw [hh]
      exact ⟨he, fun _ _ _ ↦ rfl⟩
    · rw [hh]
      rfl
  | idle _ hi ih => exact ih.idles hi
  | login _ tokens remember payload ha ht ih => exact ih.login tokens remember payload ha ht
  | @refresh es p₀ p _ hc hi tokens ha ht ih =>
    have hidle : Tells es p := by
      clear ht
      induction hi with
      | refl => exact ih
      | tail _ hs ih' => exact ih'.idles hs
    -- The choice that the credential was stored with is read from the events before the wait: the cookie
    -- itself may have expired when the new tokens come.
    rw [ih.isSome_credential] at hc
    obtain ⟨remember, hchosen, hr⟩ := of_cookie_isSome hc
    exact hidle.refresh hchosen hr tokens ha ht
  | clear _ ih => exact ih.clear
  | reopen _ ih => exact ih.reopen

/-- The law of remembering, over the runs of a profile on a store that was empty and refuses nothing.
After a reopening there is a credential just if the last login that nothing has cleared wanted to be
remembered, and the tokens were written last less than thirty days ago. The access token is the one
written last. Before a reopening, who does not want to be remembered is not forgotten. Nothing that is
done to the tokens fails. -/
theorem credential_of_lived {host : Host} {engine : Engine} (he : engine ≠ .missing)
    (hh : host.durable = .empty engine) (h : Lived host es p) :
    (reopened es = true → ((credential p).1.isSome ↔
      chosen es = some true ∧ ∃ t access, written es = some (t, access) ∧ p.now < t.addDays 30)) ∧
    (∀ c, (credential p).1 = some c → ∃ t, written es = some (t, c.access)) ∧
    (reopened es = false → chosen es = some false → (credential p).1.isSome) ∧
    (∀ tokens remember payload, ((ExpiryPolicy.ofRemember remember).expiresAt? p.now).isSome →
      (setCredential tokens remember payload p).1 = .ok ()) ∧
    (∀ tokens, ((ExpiryPolicy.ofRemember (rememberMe p).1).expiresAt? p.now).isSome →
      (replaceTokens tokens p).1 = .ok ()) ∧
    (clearCredential p).1 = .ok () ∧ (opened p.host).1 = .ok () := by
  have ht := h.tells he hh
  refine ⟨fun hr ↦ ?_, fun c hc ↦ ?_, fun hr hchosen ↦ ?_, fun tokens remember payload hx ↦ ?_,
    fun tokens hx ↦ ?_, ?_, ?_⟩
  · rw [ht.isSome_credential]
    exact isSome_cookie_iff hr
  · rw [credential_eq ht.reliable] at hc
    obtain ⟨k, hk, hv⟩ := Sight.cookie_of_credential hc
    obtain ⟨t, hw, -⟩ := ht.value_ne k hk
    exact ⟨t, hv ▸ hw⟩
  · rw [ht.isSome_credential]
    exact isSome_cookie hr hchosen
  · have hset := setCredential_succeeds tokens payload (s := p.sight) hx
    obtain ⟨p', hs, -⟩ := hset.total ht.reliable rfl
    rw [hs]
  · obtain ⟨p', hm, -⟩ := rememberMe_does p.sight p ht.reliable rfl
    rw [hm] at hx
    obtain ⟨p'', hs, -⟩ := replaceTokens_does tokens hx p ht.reliable rfl
    rw [show replaceTokens tokens p = _ from hs]
  · obtain ⟨p', hs, -⟩ := (clearCredential_succeeds p.sight).total ht.reliable rfl
    rw [hs]
  · obtain ⟨p', hs, -⟩ := opened_sight ht.reliable ht.apart
    rw [hs]

/-- A login that is to be remembered is refreshed on the day 29. Opened again on the day 58, the profile
has the new token; on the day 59 it has none. -/
theorem credential_of_lived_after_refresh :
    let host : Host := ⟨.empty .memory, ⟨0⟩, fun _ ↦ ⟨List.replicate 32 0, rfl⟩, 0⟩
    let day (n : Int) : Instant := (⟨0⟩ : Instant).addDays n
    let events : List TokenEvent := [.reopen, .refresh (day 29) "a2", .login (day 0) "a1" true]
    (∃ p c, Lived host events p ∧ p.now = day 58 ∧ (credential p).1 = some c ∧ c.access = "a2") ∧
      ∃ p, Lived host events p ∧ p.now = day 59 ∧ (credential p).1 = none := by
  intro host day events
  let p₀ := (setCredential ⟨"a1", some "r1"⟩ true none (opened host).2).2
  let p₁ := (replaceTokens ⟨"a2", some "r2"⟩ (p₀.waited (day 29))).2
  have h₀ : Lived host [.login (day 0) "a1" true] p₀ :=
    .login .start ⟨"a1", some "r1"⟩ true none (by decide) (by decide)
  have h₁ : Lived host [.refresh (day 29) "a2", .login (day 0) "a1" true] p₁ :=
    .refresh h₀ (by decide +kernel) (.single (.wait (day 29) (by decide))) ⟨"a2", some "r2"⟩ (by decide)
      (by decide +kernel)
  have hnow : p₁.now = day 29 := by decide +kernel
  have later : ∀ n, (day 29).nanos ≤ (day n).nanos → ∃ p, Lived host events p ∧ p.now = day n := by
    intro n hn
    have hw : Lived host [.refresh (day 29) "a2", .login (day 0) "a1" true] (p₁.waited (day n)) :=
      .idle h₁ (.wait (day n) (by rwa [hnow]))
    have ht := hw.tells (show Engine.memory ≠ .missing by decide) rfl
    exact ⟨_, .reopen hw, now_opened ht.reliable ht.apart⟩
  obtain ⟨p, hp, hnowp⟩ := later 58 (by decide)
  obtain ⟨q, hq, hnowq⟩ := later 59 (by decide)
  obtain ⟨hiff, haccess, -⟩ := credential_of_lived (by decide) rfl hp
  obtain ⟨hiff', -⟩ := credential_of_lived (by decide) rfl hq
  constructor
  · have hlt : p.now < (day 29).addDays 30 := by
      rw [hnowp]
      decide
    obtain ⟨c, hc⟩ := Option.isSome_iff_exists.mp ((hiff rfl).mpr ⟨rfl, day 29, "a2", rfl, hlt⟩)
    obtain ⟨t, hw⟩ := haccess c hc
    have hw : some (day 29, "a2") = some (t, c.access) := hw
    exact ⟨p, c, hp, hnowp, hc, (Prod.mk.inj (Option.some.inj hw)).2.symm⟩
  · refine ⟨q, hq, hnowq, ?_⟩
    rw [← Option.not_isSome_iff_eq_none, hiff' rfl]
    rintro ⟨-, t, access, hw, hlt⟩
    cases hw
    rw [hnowq] at hlt
    revert hlt
    decide

end Profile

end Backoffice
