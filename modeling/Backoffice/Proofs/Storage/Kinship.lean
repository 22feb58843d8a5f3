import Backoffice.Proofs.Storage.Reopening
import Backoffice.Proofs.Task.Matching

namespace Backoffice

open Time (Instant)

namespace Table

variable {of : String → String → String → Prop} {t t' : Table}

def Kin (of : String → String → String → Prop) : Table → Table → Prop :=
  List.Forall₂ fun e e' ↦ e.1 = e'.1 ∧ of e.1 e.2 e'.2

theorem Kin.refl (hr : ∀ key v, of key v v) (t : Table) : t.Kin of t :=
  List.forall₂_same.mpr fun e _ ↦ ⟨rfl, hr e.1 e.2⟩

theorem Kin.get? (h : t.Kin of t') (key : String) : Option.Rel (of key) (t.get? key) (t'.get? key) := by
  induction h with
  | nil => exact .none
  | @cons e e' _ _ he _ ih =>
    obtain ⟨k, v⟩ := e
    obtain ⟨k', v'⟩ := e'
    obtain ⟨rfl, hv⟩ := he
    simp only [Table.get?]
    split
    · next hk =>
      subst hk
      exact .some hv
    · exact ih

theorem Kin.put (h : t.Kin of t') {key v v' : String} (hv : of key v v') :
    (t.put key v).Kin of (t'.put key v') := by
  induction h with
  | nil => exact .cons ⟨rfl, hv⟩ .nil
  | @cons e e' _ _ he ht ih =>
    obtain ⟨k, w⟩ := e
    obtain ⟨k', w'⟩ := e'
    obtain ⟨rfl, hw⟩ := he
    simp only [Table.put]
    split
    · exact .cons ⟨rfl, hv⟩ ht
    · split
      · exact .cons ⟨rfl, hv⟩ (.cons ⟨rfl, hw⟩ ht)
      · exact .cons ⟨rfl, hw⟩ ih

theorem Kin.erase (h : t.Kin of t') (key : String) : (t.erase key).Kin of (t'.erase key) := by
  induction h with
  | nil => exact .nil
  | @cons e e' _ _ he _ ih =>
    simp only [Table.erase, List.filter_cons, ← he.1]
    split
    · exact .cons he ih
    · exact ih

theorem Kin.keys (h : t.Kin of t') : t.map Prod.fst = t'.map Prod.fst := by
  induction h with
  | nil => rfl
  | cons he _ ih => rw [List.map_cons, List.map_cons, he.1, ih]

theorem Kin.eq (h : t.Kin of t') (he : ∀ key v v', of key v v' → v = v') : t = t' := by
  rw [← List.forall₂_eq_eq_eq]
  exact List.Forall₂.imp (fun _ _ h ↦ Prod.ext h.1 (he _ _ _ h.2)) h

end Table

/-- What two profiles may differ in. `values` says when two values of a cookie are alike, `fit` what else is
true of the host of each, and `devices` which device identifiers come up. -/
structure Kinship where
  values : String → String → String → Prop
  fit : Host → Prop
  devices : DeviceId → Prop

namespace Profile

/-- Texts of one durable entry: the same, or two cookies that differ in nothing but values that are alike. -/
inductive KinTexts (values : String → String → String → Prop) (key : String) : String → String → Prop
  | refl (text : String) : KinTexts values key text text
  | cookie {name text text' : String} {c c' : StoredCookie} (hk : key = cookieKey name)
      (h : StoredCookie.read? text = some c) (h' : StoredCookie.read? text' = some c')
      (he : c.expiresAt = c'.expiresAt) (hv : values name c.value c'.value) (hn : c.value ≠ c'.value) :
      KinTexts values key text text'

variable {values : String → String → String → Prop}

theorem KinTexts.local_eq {key text text' : String} (h : KinTexts values (localKey key) text text') :
    text = text' := by
  cases h with
  | refl => rfl
  | cookie hk => exact absurd hk.symm (cookieKey_ne_localKey _ _)

def KinCookies (values : String → String → String → Prop) (name : String) (c c' : StoredCookie) : Prop :=
  c.expiresAt = c'.expiresAt ∧ values name c.value c'.value

theorem KinTexts.read? (hr : ∀ name v, values name v v) {name text text' : String}
    (h : KinTexts values (cookieKey name) text text') :
    Option.Rel (KinCookies values name) (StoredCookie.read? text) (StoredCookie.read? text') := by
  cases h with
  | refl =>
    cases StoredCookie.read? text with
    | none => exact .none
    | some c => exact .some ⟨rfl, hr _ _⟩
  | cookie hk h h' he hv =>
    rw [h, h']
    cases cookieKey_inj.mp hk
    exact .some ⟨he, hv⟩

theorem KinTexts.eq {key text text' : String} (h : KinTexts values key text text')
    (he : ∀ name v v', values name v v' → v = v') : text = text' := by
  cases h with
  | refl => rfl
  | cookie _ _ _ _ hv hn => exact absurd (he _ _ _ hv) hn

theorem KinTexts.isDead {key text text' : String} (h : KinTexts values key text text') (now : Instant) :
    isDead text now = isDead text' now := by
  cases h with
  | refl => rfl
  | cookie _ h h' he => simp only [Profile.isDead, h, h', he]

end Profile

open Profile (KinTexts)

structure Durable.Kin (values : String → String → String → Prop) (d d' : Durable) : Prop where
  entries : d.entries.Kin (KinTexts values) d'.entries
  only_entries : d' = { d with entries := d'.entries }

/-- A call of the store that treats kin entries alike comes to the same, and is refused to both or to neither. -/
theorem Durable.Kin.perform {α α' : Type} {values : String → String → String → Prop} {d d' : Durable}
    (h : d.Kin values d') {c : StoreCall} {f : Table → α × Table} {f' : Table → α' × Table} {Q : α → α' → Prop}
    (hf : Q (f d.entries).1 (f' d'.entries).1)
    (ht : (f d.entries).2.Kin (KinTexts values) (f' d'.entries).2) :
    Fares Q (d.perform c f).1 (d'.perform c f').1 ∧ (d.perform c f).2.Kin values (d'.perform c f').2 := by
  obtain ⟨engine, entries, calls, refuses⟩ := d
  obtain ⟨entries', rfl⟩ : ∃ entries', d' = ⟨engine, entries', calls, refuses⟩ := ⟨_, h.only_entries⟩
  unfold Durable.perform
  dsimp only
  split
  · exact ⟨.error _, h.entries, rfl⟩
  · split
    · exact ⟨.error _, h.entries, rfl⟩
    · exact ⟨.ok hf, ht, rfl⟩

structure Host.Kin (values : String → String → String → Prop) (h h' : Host) : Prop where
  durable : h.durable.Kin values h'.durable
  only_durable : h' = { h with durable := h'.durable }

namespace Kinship

variable (K : Kinship) {α β α' β' : Type}

structure Hosts (h h' : Host) : Prop where
  kin : h.Kin K.values h'
  fit : K.fit h
  fit' : K.fit h'

structure Profiles (p p' : Profile) : Prop where
  hosts : K.Hosts p.host p'.host
  cookies : p.cookies.Kin K.values p'.cookies
  session : p.session = p'.session

structure Credentials (c c' : Credential) : Prop where
  access : c.access = c'.access
  refresh : Option.Rel (K.values Profile.refreshCookie) c.refresh c'.refresh

/-- Work that two profiles undergo: they stay kin, and the results belong together. -/
def Agrees (Q : α → α' → Prop) (act : StateM Profile α) (act' : StateM Profile α') : Prop :=
  ∀ p p', K.Profiles p p' → Q (act p).1 (act' p').1 ∧ K.Profiles (act p).2 (act' p').2

/-- A kinship under which no work on a credential tells two profiles apart. -/
structure Lawful : Prop where
  refl : ∀ name v, K.values name v v
  empty : ∀ {name v v'}, K.values name v v' → (v = "" ↔ v' = "")
  access : ∀ {v v'}, K.values Profile.accessCookie v v' → v = v'
  ticks : ∀ {h} now, K.fit h → K.fit { h with now }
  get : ∀ {h} key, K.fit h → K.fit { h with durable := (h.durable.get key).2 }
  keys : ∀ {h} start, K.fit h → K.fit { h with durable := (h.durable.keys start).2 }
  set : ∀ {h} key value, key ≠ Profile.localKey Profile.deviceKey → K.fit h →
    K.fit { h with durable := (h.durable.set key value).2 }
  remove : ∀ {h} key, key ≠ Profile.localKey Profile.deviceKey → K.fit h →
    K.fit { h with durable := (h.durable.remove key).2 }
  deviceId : ∀ p : Profile, K.fit p.host → K.fit (Profile.deviceId.run p).2.host
  devices : ∀ (p : Profile) id, K.fit p.host → (Profile.deviceId.run p).1 = .ok id → K.devices id

variable {K} {Q : α → α' → Prop} {Q' : β → β' → Prop} {h h' : Host}

/-- A kinship that asks nothing but that values are alike. -/
theorem Lawful.of_values {values : String → String → String → Prop} (hr : ∀ name v, values name v v)
    (he : ∀ {name v v'}, values name v v' → (v = "" ↔ v' = ""))
    (ha : ∀ {v v'}, values Profile.accessCookie v v' → v = v') :
    (Kinship.mk values (fun _ ↦ True) fun _ ↦ True).Lawful := by
  refine ⟨hr, he, ha, ?_, ?_, ?_, ?_, ?_, ?_, ?_⟩ <;> intros <;> trivial

def bare (K : Kinship) : Kinship := ⟨K.values, fun _ ↦ True, fun _ ↦ True⟩

theorem Lawful.bare (hk : K.Lawful) : K.bare.Lawful := .of_values hk.refl hk.empty hk.access

theorem Hosts.eq (hh : K.Hosts h h') (he : ∀ name v v', K.values name v v' → v = v') : h = h' := by
  have hd : h.durable.entries = h'.durable.entries :=
    hh.kin.durable.entries.eq fun _ _ _ ht ↦ KinTexts.eq ht he
  rw [hh.kin.only_durable, hh.kin.durable.only_entries, ← hd]

theorem Profiles.eq {p p' : Profile} (hp : K.Profiles p p') (he : ∀ name v v', K.values name v v' → v = v') :
    p = p' := by
  have hh := hp.hosts.eq he
  have hc := hp.cookies.eq he
  obtain ⟨host, cookies, session⟩ := p
  obtain ⟨host', cookies', session'⟩ := p'
  cases hh
  cases hc
  cases hp.session
  rfl

theorem Profiles.bare {p p' : Profile} (hp : K.Profiles p p') : K.bare.Profiles p p' :=
  ⟨⟨hp.hosts.kin, trivial, trivial⟩, hp.cookies, hp.session⟩

theorem Hosts.ticks (hk : K.Lawful) (hh : K.Hosts h h') (now : Instant) :
    K.Hosts { h with now } { h' with now } := by
  refine ⟨⟨hh.kin.durable, ?_⟩, hk.ticks now hh.fit, hk.ticks now hh.fit'⟩
  rw [hh.kin.only_durable]

namespace Agrees

theorem pure {a : α} {a' : α'} (h : Q a a') : K.Agrees Q (Pure.pure a) (Pure.pure a') := fun _ _ hp ↦ ⟨h, hp⟩

theorem mono {act : StateM Profile α} {act' : StateM Profile α'} {R : α → α' → Prop} (h : K.Agrees Q act act')
    (hq : ∀ a a', Q a a' → R a a') : K.Agrees R act act' :=
  fun p p' hp ↦ ⟨hq _ _ (h p p' hp).1, (h p p' hp).2⟩

theorem bind {act : StateM Profile α} {act' : StateM Profile α'} {f : α → StateM Profile β}
    {g : α' → StateM Profile β'} (h : K.Agrees Q act act')
    (hf : ∀ a a', Q a a' → K.Agrees Q' (f a) (g a')) : K.Agrees Q' (act >>= f) (act' >>= g) := by
  intro p p' hp
  obtain ⟨ha, hp⟩ := h p p' hp
  exact hf _ _ ha _ _ hp

theorem andThen {act : ProfileM α} {act' : ProfileM α'} {f : α → ProfileM β} {g : α' → ProfileM β'}
    (h : K.Agrees (Fares Q) act.run act'.run)
    (hf : ∀ a a', Q a a' → K.Agrees (Fares Q') (f a).run (g a').run) :
    K.Agrees (Fares Q') (act >>= f).run (act' >>= g).run := by
  apply bind (f := ExceptT.bindCont f) (g := ExceptT.bindCont g) h
  intro r r' hr
  cases hr with
  | error e => exact pure (.error e)
  | ok ha => exact hf _ _ ha

theorem next {act : ProfileM α} {f : α → ProfileM β} {g : α → ProfileM β'}
    (h : K.Agrees (Fares Eq) act.run act.run) (hf : ∀ a, K.Agrees (Fares Q') (f a).run (g a).run) :
    K.Agrees (Fares Q') (act >>= f).run (act >>= g).run := by
  refine h.andThen fun a a' ha ↦ ?_
  cases ha
  exact hf a

theorem get {f : Profile → ProfileM β} {g : Profile → ProfileM β'}
    (hf : ∀ p p', K.Profiles p p' → K.Agrees (Fares Q') (f p).run (g p').run) :
    K.Agrees (Fares Q') (get >>= f : ProfileM β).run (get >>= g : ProfileM β').run :=
  fun p p' hp ↦ hf p p' hp p p' hp

theorem orElse {act : ProfileM α} {act' : ProfileM α'} {d : α} {d' : α'} (hd : Q d d')
    (h : K.Agrees (Fares Q) act.run act'.run) :
    K.Agrees Q (Profile.orElse d act) (Profile.orElse d' act') := by
  refine h.bind fun r r' hr ↦ ?_
  cases hr with
  | error e => exact pure hd
  | ok ha => exact pure ha

end Agrees

end Kinship

namespace Profile

open Kinship (Lawful Agrees)

variable {K : Kinship} {α α' : Type} {Q : α → α' → Prop}

theorem durably_agrees {c : StoreCall} {f : Profile → Table → α × Table} {g : Profile → Table → α' × Table}
    (ht : ∀ p p' : Profile, K.Profiles p p' →
      Q (f p p.host.durable.entries).1 (g p' p'.host.durable.entries).1 ∧
      (f p p.host.durable.entries).2.Kin (KinTexts K.values) (g p' p'.host.durable.entries).2)
    (hf : ∀ p : Profile, K.fit p.host →
      K.fit { p.host with durable := (p.host.durable.perform c (f p)).2 })
    (hg : ∀ p : Profile, K.fit p.host →
      K.fit { p.host with durable := (p.host.durable.perform c (g p)).2 }) :
    K.Agrees (Fares Q) (fun p ↦ durably (·.perform c (f p)) p) (fun p ↦ durably (·.perform c (g p)) p) := by
  intro p p' hp
  obtain ⟨hq, hk⟩ := ht p p' hp
  obtain ⟨hr, hd⟩ := hp.hosts.kin.durable.perform (c := c) hq hk
  refine ⟨hr, ⟨⟨hd, ?_⟩, hf p hp.hosts.fit, hg p' hp.hosts.fit'⟩, hp.cookies, hp.session⟩
  change Host.mk _ _ _ _ = _
  rw [hp.hosts.kin.only_durable]
  rfl

variable (hk : K.Lawful)
include hk

theorem get_agrees (key : String) :
    K.Agrees (Fares (Option.Rel (KinTexts K.values key))) (durably (·.get key)).run (durably (·.get key)).run :=
  durably_agrees (fun _ _ hp ↦ ⟨hp.hosts.kin.durable.entries.get? key, hp.hosts.kin.durable.entries⟩)
    (fun _ ↦ hk.get key) fun _ ↦ hk.get key

theorem remove_agrees {key : String} (hn : key ≠ localKey deviceKey) :
    K.Agrees (Fares Eq) (durably (·.remove key)).run (durably (·.remove key)).run :=
  durably_agrees (fun _ _ hp ↦ ⟨rfl, hp.hosts.kin.durable.entries.erase key⟩) (fun _ ↦ hk.remove key hn)
    fun _ ↦ hk.remove key hn

theorem set_agrees {key : String} (value : String) (hn : key ≠ localKey deviceKey) :
    K.Agrees (Fares Eq) (durably (·.set key value)).run (durably (·.set key value)).run :=
  durably_agrees (fun _ _ hp ↦ ⟨rfl, hp.hosts.kin.durable.entries.put (.refl value)⟩)
    (fun _ ↦ hk.set key value hn) fun _ ↦ hk.set key value hn

theorem keys_agrees : K.Agrees (Fares fun ks ks' ↦ ks = ks' ∧ ∀ key ∈ ks, ∃ n, key = cookieKey n)
    (durably (·.keys cookieStart)).run (durably (·.keys cookieStart)).run := by
  refine durably_agrees (f := fun p t ↦ (p.cookieKeys, t)) (g := fun p t ↦ (p.cookieKeys, t))
    (fun p p' hp ↦ ⟨⟨?_, fun _ ↦ exists_of_mem_cookieKeys⟩, hp.hosts.kin.durable.entries⟩)
    (fun _ ↦ hk.keys cookieStart) fun _ ↦ hk.keys cookieStart
  have he : p'.host.durable.engine = p.host.durable.engine := by rw [hp.hosts.kin.durable.only_entries]
  simp only [cookieKeys, hp.hosts.kin.durable.entries.keys, he]

omit hk in
theorem modify_agrees {f : Profile → Profile} (hf : ∀ p p', K.Profiles p p' → K.Profiles (f p) (f p')) :
    K.Agrees (Fares Eq) (modify f : ProfileM Unit).run (modify f : ProfileM Unit).run :=
  fun p p' hp ↦ ⟨.ok rfl, hf p p' hp⟩

omit hk in
theorem dropSessionCookie_agrees (name : String) :
    K.Agrees (Fares Eq) (dropSessionCookie name).run (dropSessionCookie name).run :=
  modify_agrees fun _ _ hp ↦ ⟨hp.hosts, hp.cookies.erase name, hp.session⟩

omit hk in
theorem modifySession_agrees (f : Table → Table) :
    K.Agrees (Fares Eq) (modify fun p ↦ { p with session := f p.session } : ProfileM Unit).run
      (modify fun p ↦ { p with session := f p.session } : ProfileM Unit).run :=
  modify_agrees fun _ _ hp ↦ ⟨hp.hosts, hp.cookies, congrArg f hp.session⟩

theorem setCookie_agrees (name value : String) (expiry : Option Instant) :
    K.Agrees (Fares Eq) (setCookie name value expiry).run (setCookie name value expiry).run := by
  cases expiry with
  | some t =>
    exact (dropSessionCookie_agrees name).next fun _ ↦ set_agrees hk _ (cookieKey_ne_localKey _ _)
  | none =>
    exact (remove_agrees hk (cookieKey_ne_localKey _ _)).next fun _ ↦
      modify_agrees fun _ _ hp ↦ ⟨hp.hosts, hp.cookies.put (hk.refl name value), hp.session⟩

theorem removeCookie_agrees (name : String) :
    K.Agrees (Fares Eq) (removeCookie name).run (removeCookie name).run :=
  (dropSessionCookie_agrees name).next fun _ ↦ remove_agrees hk (cookieKey_ne_localKey _ _)

theorem durableCookie_agrees (name : String) :
    K.Agrees (Fares (Option.Rel (K.values name))) (durableCookie name).run (durableCookie name).run := by
  refine (get_agrees hk _).andThen fun entry entry' he ↦ ?_
  cases he with
  | none => exact .pure (.ok .none)
  | some ht =>
    have hc := ht.read? hk.refl
    simp only
    generalize StoredCookie.read? _ = c at hc ⊢
    generalize StoredCookie.read? _ = c' at hc ⊢
    cases hc with
    | none => exact .pure (.error _)
    | some hc =>
      refine .get fun p p' hp ↦ ?_
      have hn : p'.now = p.now := by rw [now, hp.hosts.kin.only_durable]; rfl
      rw [hn, ← hc.1]
      split
      · exact .pure (.ok (.some hc.2))
      · exact (remove_agrees hk (cookieKey_ne_localKey _ _)).next fun _ ↦ .pure (.ok .none)

theorem cookie_agrees (name : String) :
    K.Agrees (Fares (Option.Rel (K.values name))) (cookie name).run (cookie name).run := by
  refine .get fun p p' hp ↦ ?_
  have hc := hp.cookies.get? name
  generalize p.cookies.get? name = v at hc ⊢
  generalize p'.cookies.get? name = v' at hc ⊢
  cases hc with
  | none => exact durableCookie_agrees hk name
  | some hv => exact .pure (.ok (.some hv))

theorem purgeKeys_agrees (keys : List String) (hn : ∀ key ∈ keys, ∃ n, key = cookieKey n) :
    K.Agrees (Fares Eq) (purgeKeys keys).run (purgeKeys keys).run := by
  induction keys with
  | nil => exact .pure (.ok rfl)
  | cons key rest ih =>
    obtain ⟨n, rfl⟩ := hn _ List.mem_cons_self
    refine Agrees.next ?_ fun _ ↦ ih fun key h ↦ hn key (List.mem_cons_of_mem _ h)
    refine (get_agrees hk _).andThen fun entry entry' he ↦ ?_
    cases he with
    | none => exact .pure (.ok rfl)
    | some ht =>
      refine .get fun p p' hp ↦ ?_
      have hn : p'.now = p.now := by rw [now, hp.hosts.kin.only_durable]; rfl
      rw [hn, ht.isDead]
      split
      · exact remove_agrees hk (cookieKey_ne_localKey _ _)
      · exact .pure (.ok rfl)

theorem purge_agrees : K.Agrees (Fares Eq) purge.run purge.run := by
  refine (keys_agrees hk).andThen fun keys keys' hks ↦ ?_
  obtain ⟨rfl, hn⟩ := hks
  exact purgeKeys_agrees hk keys hn

omit hk in
theorem localKey_ne_deviceKey {key : String} (h : key ≠ deviceKey) : localKey key ≠ localKey deviceKey :=
  fun he ↦ h (localKey_inj.mp he)

theorem localGet_agrees (key : String) : K.Agrees (Fares Eq) (localGet key).run (localGet key).run := by
  refine (get_agrees hk _).mono fun r r' hr ↦ ?_
  cases hr with
  | error e => exact .error e
  | ok ht =>
    cases ht with
    | none => exact .ok rfl
    | some ht => exact .ok (congrArg some ht.local_eq)

theorem rememberMe_agrees : K.Agrees Eq rememberMe rememberMe :=
  .orElse rfl ((localGet_agrees hk _).next fun _ ↦ .pure (.ok rfl))

theorem writeTokens_agrees (tokens : TokenPair) (policy : ExpiryPolicy) :
    K.Agrees (Fares Eq) (writeTokens tokens policy).run (writeTokens tokens policy).run := by
  refine .get fun p p' hp ↦ ?_
  have hn : p'.now = p.now := by rw [now, hp.hosts.kin.only_durable]; rfl
  rw [hn]
  refine (setCookie_agrees hk _ _ _).next fun _ ↦ ?_
  cases tokens.refresh with
  | some r => exact setCookie_agrees hk _ _ _
  | none => exact .pure (.ok rfl)

theorem setCredential_agrees (tokens : TokenPair) (remember : Bool) (payload : Option LoginPayload) :
    K.Agrees (Fares Eq) (setCredential tokens remember payload).run
      (setCredential tokens remember payload).run := by
  refine (writeTokens_agrees hk _ _).next fun _ ↦
    (set_agrees hk _ (localKey_ne_deviceKey (by decide))).next fun _ ↦ ?_
  cases payload with
  | none => exact .pure (.ok rfl)
  | some l =>
    refine (modifySession_agrees _).next fun _ ↦ ?_
    cases remember with
    | true => exact set_agrees hk _ (localKey_ne_deviceKey (by decide))
    | false => exact remove_agrees hk (localKey_ne_deviceKey (by decide))

theorem replaceTokens_agrees (tokens : TokenPair) :
    K.Agrees (Fares Eq) (replaceTokens tokens).run (replaceTokens tokens).run := by
  let write (remember : Bool) := (writeTokens tokens (.ofRemember remember)).run
  refine (rememberMe_agrees hk).bind (f := write) (g := write) fun r r' hr ↦ ?_
  cases hr
  exact writeTokens_agrees hk tokens _

theorem nonempty?_rel {name : String} {v v' : Option String} (h : Option.Rel (K.values name) v v') :
    Option.Rel (K.values name) (nonempty? v) (nonempty? v') := by
  cases h with
  | none => exact .none
  | @some v v' h =>
    have he := hk.empty h
    by_cases hv : v = ""
    · rw [he.mp hv, hv]
      exact .none
    · rw [Sight.nonempty?_of_ne hv, Sight.nonempty?_of_ne (mt he.mpr hv)]
      exact .some h

theorem credential_agrees : K.Agrees (Option.Rel K.Credentials) credential credential := by
  refine Agrees.bind (Agrees.orElse .none (cookie_agrees hk _)) fun v v' hv ↦ ?_
  have hn := nonempty?_rel hk hv
  generalize nonempty? v = access at hn ⊢
  generalize nonempty? v' = access' at hn ⊢
  cases hn with
  | none => exact .pure .none
  | some ha =>
    refine Agrees.bind (Agrees.orElse .none (cookie_agrees hk _)) fun r r' hr ↦ ?_
    exact (rememberMe_agrees hk).bind fun _ _ _ ↦ .pure (.some ⟨hk.access ha, nonempty?_rel hk hr⟩)

theorem clearCredential_agrees : K.Agrees (Fares Eq) clearCredential.run clearCredential.run :=
  (removeCookie_agrees hk _).next fun _ ↦ (removeCookie_agrees hk _).next fun _ ↦
    remove_agrees hk (localKey_ne_deviceKey (by decide))

theorem clearRemembered_agrees : K.Agrees (Fares Eq) clearRemembered.run clearRemembered.run :=
  (remove_agrees hk (localKey_ne_deviceKey (by decide))).next fun _ ↦
    (remove_agrees hk (localKey_ne_deviceKey (by decide))).next fun _ ↦ modifySession_agrees _

omit hk in
theorem issueDeviceId_agrees (hf : ∀ h, K.fit h → K.fit { h with issued := h.issued + 1 }) :
    K.Agrees (Fares Eq) issueDeviceId.run issueDeviceId.run := by
  intro p p' hp
  have he : p'.host = { p.host with durable := p'.host.durable } := hp.hosts.kin.only_durable
  refine ⟨?_, ⟨⟨hp.hosts.kin.durable, ?_⟩, hf _ hp.hosts.fit, hf _ hp.hosts.fit'⟩, hp.cookies, hp.session⟩
  · change Fares Eq (.ok (p.host.deviceIds p.host.issued)) (.ok (p'.host.deviceIds p'.host.issued))
    rw [he]
    exact .ok rfl
  · change Host.mk p'.host.durable p'.host.now p'.host.deviceIds (p'.host.issued + 1) = _
    rw [he]
    rfl

theorem deviceId_agrees :
    K.Agrees (Fares fun id id' ↦ id = id' ∧ K.devices id) deviceId.run deviceId.run := by
  have hb : K.bare.Agrees (Fares Eq) deviceId.run deviceId.run := by
    refine (localGet_agrees hk.bare _).next fun entry ↦ ?_
    cases (entry.map DeviceId.parse).bind Except.toOption with
    | some id => exact .pure (.ok rfl)
    | none =>
      refine Agrees.next (issueDeviceId_agrees fun _ _ ↦ trivial) fun id ↦ ?_
      have hs : K.bare.Agrees (Fares Eq) (durably (·.set (localKey deviceKey) id.write)).run
          (durably (·.set (localKey deviceKey) id.write)).run :=
        durably_agrees (fun _ _ hp ↦ ⟨rfl, hp.hosts.kin.durable.entries.put (.refl _)⟩) (fun _ _ ↦ trivial)
          fun _ _ ↦ trivial
      exact hs.next fun _ ↦ .pure (.ok rfl)
  intro p p' hp
  obtain ⟨hr, hp'⟩ := hb p p' hp.bare
  refine ⟨?_, ⟨hp'.hosts.kin, hk.deviceId p hp.hosts.fit, hk.deviceId p' hp.hosts.fit'⟩, hp'.cookies, hp'.session⟩
  have hd := hk.devices p
  generalize (deviceId.run p).1 = r at hr hd ⊢
  generalize (deviceId.run p').1 = r' at hr ⊢
  cases hr with
  | error e => exact .error e
  | ok he => exact .ok ⟨he, hd _ hp.hosts.fit rfl⟩

end Profile

end Backoffice
