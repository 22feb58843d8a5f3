import Backoffice.Proofs.Storage.Reopening

namespace Backoffice

open Time (Instant)

/-- What can be done with the contents of a profile. -/
inductive Access where
  | setCookie (name value : String) (expiry : Option Instant)
  | cookie (name : String)
  | removeCookie (name : String)
  | localGet (key : String)
  | localSet (key value : String)
  | localRemove (key : String)
  | sessionGet (key : String)
  | sessionSet (key value : String)
  | sessionRemove (key : String)
  | reopen
  deriving DecidableEq, Repr

inductive Place where
  | cookie (name : String)
  | kept (key : String)
  | session (key : String)
  deriving DecidableEq, Repr

namespace Access

def Storable : Access → Prop
  | setCookie _ _ (some t) => t.inRange = true
  | _ => True

/-- The place that is written to. Opening again writes to all. -/
def Writes : Access → Place → Prop
  | setCookie name _ _, x | removeCookie name, x => x = .cookie name
  | localSet key _, x | localRemove key, x => x = .kept key
  | sessionSet key _, x | sessionRemove key, x => x = .session key
  | reopen, _ => True
  | cookie _, _ | localGet _, _ | sessionGet _, _ => False

variable {es : List Access} {now t : Instant}

def lastCookie (name : String) : List Access → Option Cookie
  | [] => none
  | setCookie n value expiry :: es => if n = name then some ⟨value, expiry⟩ else lastCookie name es
  | removeCookie n :: es => if n = name then none else lastCookie name es
  | _ :: es => lastCookie name es

def reopenedSince (name : String) : List Access → Bool
  | [] => false
  | setCookie n _ _ :: es => if n = name then false else reopenedSince name es
  | reopen :: _ => true
  | _ :: es => reopenedSince name es

/-- The cookie of a name at some time after a history. One of the session is there until the profile is
opened again, and one with an expiry until that time. -/
def cookieAt (es : List Access) (now : Instant) (name : String) : Option Cookie :=
  (lastCookie name es).filter fun c ↦
    match c.expiry with
    | none => !reopenedSince name es
    | some t => decide (now < t)

def lastKept (key : String) : List Access → Option String
  | [] => none
  | localSet k value :: es => if k = key then some value else lastKept key es
  | localRemove k :: es => if k = key then none else lastKept key es
  | _ :: es => lastKept key es

def lastOfSession (key : String) : List Access → Option String
  | [] => none
  | sessionSet k value :: es => if k = key then some value else lastOfSession key es
  | sessionRemove k :: es => if k = key then none else lastOfSession key es
  | reopen :: _ => none
  | _ :: es => lastOfSession key es

def found (es : List Access) (now : Instant) : Place → Option String
  | .cookie name => (cookieAt es now name).map Cookie.value
  | .kept key => lastKept key es
  | .session key => lastOfSession key es

/-- What a reading answers after a history. A write has no answer. -/
def answer (es : List Access) (now : Instant) : Access → Option String
  | cookie name => found es now (.cookie name)
  | localGet key => found es now (.kept key)
  | sessionGet key => found es now (.session key)
  | _ => none

/-- What is done to one place is not seen at another. -/
theorem found_cons_of_not_writes {a : Access} {x : Place} (h : ¬ a.Writes x) :
    found (a :: es) now x = found es now x := by
  cases x with
  | cookie name => cases a <;> simp_all [Writes, found, cookieAt, lastCookie, reopenedSince, eq_comm]
  | kept key => cases a <;> simp_all [Writes, found, lastKept, eq_comm]
  | session key => cases a <;> simp_all [Writes, found, lastOfSession, eq_comm]

theorem cookieAt_setCookie (n value : String) (expiry : Option Instant) (name : String) :
    cookieAt (setCookie n value expiry :: es) now name =
      if name = n then (some ⟨value, expiry⟩ : Option Cookie).filter fun c ↦ isLive c.expiry now
      else cookieAt es now name := by
  by_cases h : n = name
  · subst h
    simp only [cookieAt, lastCookie, reopenedSince, if_true]
    cases expiry <;> rfl
  · simp [cookieAt, lastCookie, reopenedSince, h, Ne.symm h]

theorem cookieAt_removeCookie (n name : String) :
    cookieAt (removeCookie n :: es) now name = if name = n then none else cookieAt es now name := by
  by_cases h : n = name
  · simp [cookieAt, lastCookie, h]
  · simp [cookieAt, lastCookie, reopenedSince, h, Ne.symm h]

theorem cookieAt_reopen (name : String) :
    cookieAt (reopen :: es) now name = (cookieAt es now name).filter fun c ↦ c.expiry.isSome := by
  simp only [cookieAt, lastCookie, reopenedSince, Option.filter_filter]
  congr 1
  funext c
  cases c.expiry <;> simp

/-- While the clock goes on, a cookie is there until it expires. -/
theorem cookieAt_later (h : now.nanos ≤ t.nanos) (name : String) :
    cookieAt es t name = (cookieAt es now name).filter fun c ↦ isLive c.expiry t := by
  simp only [cookieAt, Option.filter_filter]
  congr 1
  funext c
  cases hc : c.expiry with
  | none => simp [isLive]
  | some e =>
    have hm : t < e → now < e := Int.lt_of_le_of_lt h
    simpa [isLive] using hm

end Access

namespace Profile

open Access

def access : Access → ProfileM (Option String)
  | .setCookie name value expiry => do setCookie name value expiry; return none
  | .cookie name => cookie name
  | .removeCookie name => do removeCookie name; return none
  | .localGet key => localGet key
  | .localSet key value => do localSet key value; return none
  | .localRemove key => do localRemove key; return none
  | .sessionGet key => sessionGet key
  | .sessionSet key value => do sessionSet key value; return none
  | .sessionRemove key => do sessionRemove key; return none
  | .reopen => fun p ↦ ((opened p.host).1.map fun _ ↦ none, (opened p.host).2)

def lookAt : Place → ProfileM (Option String)
  | .cookie name => cookie name
  | .kept key => localGet key
  | .session key => sessionGet key

/-- The runs of a profile that begin on a host: each access is at a time no earlier than the one before
it. -/
inductive Ran (host : Host) : List Access → Profile → Prop
  | start : Ran host [] (opened host).2
  | step {es : List Access} {p : Profile} (h : Ran host es p) (t : Instant) (ht : p.now.nanos ≤ t.nanos)
      (a : Access) (ha : a.Storable) : Ran host (a :: es) (access a (p.waited t)).2

def Readable (p : Profile) : Prop :=
  ∀ name text, p.host.durable.entries.get? (cookieKey name) = some text →
    (StoredCookie.read? text).isSome

def StaysReadable {α : Type} (act : StateM Profile α) : Prop := ∀ p, p.Readable → (act p).2.Readable

theorem Within.readable {p p' : Profile} (h : p'.Within p) (hp : p.Readable) : p'.Readable :=
  fun name text ht ↦ hp name text (h.entries _ _ ht)

theorem Sheds.staysReadable {α : Type} {act : StateM Profile α} (h : Sheds act) : StaysReadable act :=
  fun p ↦ (h p).readable

theorem set_staysReadable {key text : String}
    (h : ∀ name, key = cookieKey name → (StoredCookie.read? text).isSome) :
    StaysReadable (durably (·.set key text)).run := by
  intro p hp name text' ht
  change (p.host.durable.set key text).2.entries.get? (cookieKey name) = some text' at ht
  rcases entries_perform p.host.durable (.set key) fun t ↦ ((), t.put key text) with he | he
  · rw [Durable.set, he] at ht
    exact hp name text' ht
  · rw [Durable.set, he, Table.get?_put] at ht
    split at ht
    · next hk =>
      obtain rfl := Option.some.inj ht
      exact h name hk.symm
    · exact hp name text' ht

theorem setCookie_staysReadable (name value : String) {expiry : Option Instant}
    (he : ∀ t, expiry = some t → t.inRange = true) : StaysReadable (setCookie name value expiry).run := by
  intro p hp
  cases expiry with
  | some t =>
    refine set_staysReadable (fun n _ ↦ ?_) _ ((withoutCookie_within name p).readable hp)
    rw [StoredCookie.read?_write (he t rfl)]
    rfl
  | none =>
    -- What the session keeps is no durable cookie.
    have hr : Along (Keeping Readable) (durably (·.remove (cookieKey name))).run := (remove_sheds _).staysReadable
    have hput : Along (Keeping Readable)
        (modify fun p ↦ { p with cookies := p.cookies.put name value } : ProfileM Unit).run := fun _ h ↦ h
    exact hr.andThen (fun _ ↦ hput) p hp

/-- Where every durable cookie can be read, reading one never fails. -/
theorem cookie_answers {p : Profile} (hp : p.Reliable) (hr : p.Readable) (name : String) :
    (cookie name p).1 = .ok ((p.sight.cookies name).map Cookie.value) := by
  have hok : ∃ v, (cookie name p).1 = .ok v := by
    rw [cookie, get_bind]
    cases p.cookies.get? name with
    | some v => exact ⟨_, rfl⟩
    | none =>
      simp only
      rw [durableCookie, bind_of_ok (hp.durably_get _)]
      cases he : p.host.durable.entries.get? (cookieKey name) with
      | none => exact ⟨_, rfl⟩
      | some text =>
        obtain ⟨c, hc⟩ := Option.isSome_iff_exists.mp (hr name text he)
        simp only [hc]
        rw [get_bind]
        split
        · exact ⟨_, rfl⟩
        · rw [bind_of_ok ((hp.later _).durably_remove _)]
          exact ⟨_, rfl⟩
  obtain ⟨v, hv⟩ := hok
  obtain ⟨r, p', he, hs, -, -⟩ := cookie_sight hp name
  rw [he] at hv ⊢
  obtain rfl : r = .ok v := hv
  exact congrArg Except.ok hs

/-- What a profile shows is what a history tells. -/
structure Agrees (es : List Access) (p : Profile) : Prop where
  reliable : p.Reliable
  apart : p.Apart
  readable : p.Readable
  cookies : ∀ name, p.sight.cookies name = cookieAt es p.now name
  kept : ∀ key, p.sight.kept key = lastKept key es
  session : ∀ key, p.session.get? key = lastOfSession key es

namespace Agrees

variable {p p' : Profile} {es : List Access}

theorem waited (h : Agrees es p) {t : Instant} (ht : p.now.nanos ≤ t.nanos) : Agrees es (p.waited t) where
  reliable := h.reliable
  apart := h.apart
  readable := h.readable
  cookies name := by
    rw [sight_waited ht]
    exact (congrArg _ (h.cookies name)).trans (cookieAt_later ht name).symm
  kept := h.kept
  session := h.session

/-- A write that the store accepts, if it makes of the sight what the longer history tells. -/
theorem write (h : Agrees es p) {a : Access} {act : ProfileM Unit} {s : Sight}
    (hw : access a = do act; return none) (hs : Succeeds act p.sight () s)
    (ha : StaysApart act.run) (hr : StaysReadable act.run)
    (hn : s.now = p.now) (hc : ∀ name, s.cookies name = cookieAt (a :: es) s.now name)
    (hk : ∀ key, s.kept key = lastKept key (a :: es))
    (ht : ∀ key, s.session.get? key = lastOfSession key (a :: es)) :
    ∃ p', access a p = (.ok none, p') ∧ p'.now = p.now ∧ Agrees (a :: es) p' := by
  obtain ⟨p', he, hp'⟩ := hs.total h.reliable rfl
  obtain ⟨-, rfl⟩ := hs.effect rfl he
  have hapart := ha p h.apart
  have hreadable := hr p h.readable
  rw [show act.run p = _ from he] at hapart hreadable
  refine ⟨p', ?_, hn, hp', hapart, hreadable, hc, hk, ht⟩
  rw [hw, bind_of_ok he]
  rfl

theorem of_within (h : Agrees es p) (hr : p'.Reliable) (hi : p'.Within p) (hs : p'.sight = p.sight) :
    Agrees es p' where
  reliable := hr
  apart := hi.apart h.apart
  readable := hi.readable h.readable
  cookies name := by
    rw [hs, show p'.now = p.now from congrArg Sight.now hs]
    exact h.cookies name
  kept key := by
    rw [hs]
    exact h.kept key
  session key := by
    rw [show p'.session = p.session from congrArg Sight.session hs]
    exact h.session key

theorem start {host : Host} (hr : host.durable.Reliable) (he : host.durable.entries = []) :
    Agrees [] (opened host).2 := by
  have hb : Agrees [] (blank host) := by
    exact {
      reliable := hr
      apart := apart_blank host
      readable := by
        intro name text ht
        simp [blank, he, Table.get?] at ht
      cookies := fun name ↦ by simp [sight, shown, blank, he, Table.get?, cookieAt, lastCookie]
      kept := fun key ↦ by simp [sight, blank, he, Table.get?, lastKept]
      session := fun key ↦ rfl }
  obtain ⟨p', ho, hp', hs⟩ := (purge_succeeds _).does (blank host) hb.reliable rfl
  have hi := purge_sheds (blank host)
  rw [ho] at hi
  rw [opened, show purge (blank host) = _ from ho]
  exact hb.of_within hp' hi hs

theorem read (h : Agrees es p) {a : Access} (ha : ∀ x, ¬ a.Writes x) : Agrees (a :: es) p := by
  cases a with
  | cookie | localGet | sessionGet =>
    exact ⟨h.reliable, h.apart, h.readable, h.cookies, h.kept, h.session⟩
  | setCookie | removeCookie | localSet | localRemove | sessionSet | sessionRemove => cases ha _ rfl
  | reopen => cases ha (.kept "") trivial

theorem reopened (h : Agrees es p) :
    ∃ p', access .reopen p = (.ok none, p') ∧ p'.now = p.now ∧ Agrees (.reopen :: es) p' := by
  obtain ⟨p', ho, hr, hap, hs⟩ := opened_sight h.reliable h.apart
  have hn : p'.now = p.now := congrArg Sight.now hs
  have hi := purge_sheds (blank p.host)
  rw [show purge.run (blank p.host) = _ from ho] at hi
  refine ⟨p', ?_, hn, hr, hap, hi.readable h.readable, fun name ↦ ?_, ?_, fun key ↦ ?_⟩
  · simp only [access, ho]
    rfl
  · rw [hs, cookieAt_reopen, hn, ← h.cookies]
    rfl
  · rw [hs]
    exact h.kept
  · rw [show p'.session = [] from congrArg Sight.session hs]
    rfl

/-- Whatever is done comes to what the history tells, and the history goes on. -/
theorem step (h : Agrees es p) {a : Access} (ha : a.Storable) :
    ∃ p', access a p = (.ok (answer es p.now a), p') ∧ p'.now = p.now ∧ Agrees (a :: es) p' := by
  cases a with
  | setCookie name value expiry =>
    have he : ∀ t, expiry = some t → t.inRange = true := by
      rintro t rfl
      exact ha
    refine h.write rfl (setCookie_shows name value expiry p.sight he) (setCookie_staysApart _ _ _)
      (setCookie_staysReadable name value he) rfl (fun n ↦ ?_) h.kept h.session
    rw [cookieAt_setCookie]
    simp only [Sight.setCookie, h.cookies]
    rfl
  | removeCookie name =>
    refine h.write rfl (removeCookie_succeeds name p.sight) (removeCookie_sheds name).staysApart
      (removeCookie_sheds name).staysReadable rfl (fun n ↦ ?_) h.kept h.session
    rw [cookieAt_removeCookie]
    simp only [Sight.setCookie, h.cookies]
    rfl
  | localSet key value =>
    refine h.write rfl (localSet_succeeds key value p.sight) (localSet_staysApart key value)
      (set_staysReadable fun n hn ↦ ?_) rfl h.cookies (fun k ↦ ?_) h.session
    · cases cookieKey_ne_localKey n key hn.symm
    · simp only [Sight.keep, lastKept, h.kept, eq_comm]
  | localRemove key =>
    refine h.write rfl (localRemove_succeeds key p.sight) (remove_sheds _).staysApart
      (remove_sheds _).staysReadable rfl h.cookies (fun k ↦ ?_) h.session
    simp only [Sight.keep, lastKept, h.kept, eq_comm]
  | sessionSet key value =>
    refine h.write rfl (sessionSet_succeeds key value p.sight) (sessionSet_staysApart key value)
      (fun _ hp ↦ hp) rfl h.cookies h.kept fun k ↦ ?_
    simp only [Table.get?_put, lastOfSession, eq_comm]
    rw [← h.session]
    rfl
  | sessionRemove key =>
    refine h.write rfl (sessionRemove_succeeds key p.sight) (fun _ hp ↦ hp) (fun _ hp ↦ hp)
      rfl h.cookies h.kept fun k ↦ ?_
    simp only [Table.get?_erase, lastOfSession, eq_comm]
    rw [← h.session]
    rfl
  | cookie name =>
    have hv := cookie_answers h.reliable h.readable name
    have hi := cookie_sheds name p
    obtain ⟨r, p', he, -, hr, hs⟩ := cookie_sight h.reliable name
    rw [ExceptT.run, he] at hi
    rw [he, h.cookies] at hv
    exact ⟨p', he.trans (congrArg (·, p') hv), congrArg Sight.now hs,
      (h.of_within hr hi hs).read fun _ ↦ id⟩
  | localGet key =>
    have hlater : Agrees es (p.later p.host.durable.entries) :=
      h.of_within (h.reliable.later _) ⟨fun _ _ hg ↦ hg, fun _ _ hg ↦ hg⟩ rfl
    refine ⟨p.later p.host.durable.entries, (h.reliable.durably_get _).trans ?_, rfl,
      hlater.read fun _ ↦ id⟩
    simp only [answer, found, ← h.kept]
    rfl
  | sessionGet key =>
    refine ⟨p, ?_, rfl, h.read fun _ ↦ id⟩
    simp only [answer, found, ← h.session]
    rfl
  | reopen => exact h.reopened

end Agrees

theorem Agrees.lookAt {es : List Access} {p : Profile} (h : Agrees es p) (x : Place) :
    (lookAt x p).1 = .ok (found es p.now x) := by
  cases x with
  | cookie name =>
    rw [found, ← h.cookies]
    exact cookie_answers h.reliable h.readable name
  | kept key =>
    rw [found, ← h.kept]
    exact congrArg Prod.fst (h.reliable.durably_get (localKey key))
  | session key =>
    rw [found, ← h.session]
    rfl

theorem Ran.agrees {host : Host} {es : List Access} {p : Profile} (hr : host.durable.Reliable)
    (he : host.durable.entries = []) (h : Ran host es p) : Agrees es p := by
  induction h with
  | start => exact .start hr he
  | step h t ht a ha ih =>
    obtain ⟨p', hp', -, hagree⟩ := (ih.waited ht).step ha
    rw [hp']
    exact hagree

/-- What a profile answers, after any run on a store that was empty and refuses nothing. Each access comes
to what the history tells and never to an error, and at a place that it does not write to nothing changes. -/
theorem access_of_ran {host : Host} {es : List Access} {p : Profile} (hr : host.durable.Reliable)
    (he : host.durable.entries = []) (h : Ran host es p) {t : Instant} (ht : p.now.nanos ≤ t.nanos)
    {a : Access} (ha : a.Storable) :
    (access a (p.waited t)).1 = .ok (answer es t a) ∧
      ∀ x, ¬ a.Writes x → (lookAt x (access a (p.waited t)).2).1 = (lookAt x (p.waited t)).1 := by
  have hw := (h.agrees hr he).waited ht
  obtain ⟨p', hp', hnow, hagree⟩ := hw.step ha
  rw [hp']
  refine ⟨rfl, fun x hx ↦ ?_⟩
  rw [hagree.lookAt, hw.lookAt, hnow, found_cons_of_not_writes hx]

/-- A cookie of the session is replaced by one that expires at the time 5. Opened again, the profile has
it until then, and what was kept under the same name is there still. -/
theorem access_of_ran_after_reopening :
    let host : Host := ⟨.empty .memory, ⟨0⟩, fun _ ↦ ⟨List.replicate 32 0, rfl⟩, 0⟩
    let events : List Access :=
      [.reopen, .localSet "t" "kept", .setCookie "t" "later" (some ⟨5⟩), .setCookie "t" "now" none]
    ∃ p, Ran host events p ∧ p.now = ⟨1⟩ ∧
      (access (.cookie "t") (p.waited ⟨4⟩)).1 = .ok (some "later") ∧
      (access (.cookie "t") (p.waited ⟨5⟩)).1 = .ok none ∧
      (lookAt (.kept "t") (access (.removeCookie "t") (p.waited ⟨5⟩)).2).1 = .ok (some "kept") := by
  intro host events
  let after (a : Access) (p : Profile) : Profile := (access a (p.waited ⟨1⟩)).2
  let p₁ := after (.setCookie "t" "now" none) (opened host).2
  let p₂ := after (.setCookie "t" "later" (some ⟨5⟩)) p₁
  let p₃ := after (.localSet "t" "kept") p₂
  let p := after .reopen p₃
  have h₁ : Ran host (events.drop 3) p₁ := .step .start ⟨1⟩ (by decide +kernel) _ trivial
  have h₂ : Ran host (events.drop 2) p₂ :=
    .step h₁ ⟨1⟩ (by decide +kernel) _ (show Instant.inRange ⟨5⟩ = true by decide)
  have h₃ : Ran host (events.drop 1) p₃ := .step h₂ ⟨1⟩ (by decide +kernel) _ trivial
  have hp : Ran host events p := .step h₃ ⟨1⟩ (by decide +kernel) _ trivial
  have hr : host.durable.Reliable := ⟨by decide, fun _ _ _ ↦ rfl⟩
  have hnow : p.now = ⟨1⟩ := by decide +kernel
  have h₄ : p.now.nanos ≤ (⟨4⟩ : Instant).nanos := by
    rw [hnow]
    decide
  have h₅ : p.now.nanos ≤ (⟨5⟩ : Instant).nanos := by
    rw [hnow]
    decide
  refine ⟨p, hp, hnow, (access_of_ran hr rfl hp h₄ (a := .cookie "t") trivial).1,
    (access_of_ran hr rfl hp h₅ (a := .cookie "t") trivial).1, ?_⟩
  rw [(access_of_ran hr rfl hp h₅ (a := .removeCookie "t") trivial).2 (.kept "t") Place.noConfusion]
  exact (access_of_ran hr rfl hp h₅ (a := .localGet "t") trivial).1

end Profile

end Backoffice
