import Backoffice.Proofs.Storage.Clearing
import Backoffice.Proofs.Storage.Engines

namespace Backoffice

open Time (Instant)

theorem Engine.keyStarts_cookieStart (e : Engine) (key : String) :
    e.keyStarts Profile.cookieStart key = true ↔ Profile.cookieStart.toList <+: key.toList := by
  cases e with
  | database => rw [Engine.keyStarts_database, and_iff_right (by decide)]
  | memory => exact Engine.keyStarts_memory
  | missing => exact List.isPrefixOf_iff_prefix

theorem Table.get?_of_mem {t : Table} (hn : (t.map Prod.fst).Nodup) {e : String × String} (h : e ∈ t) :
    t.get? e.1 = some e.2 := by
  induction t with
  | nil => cases h
  | cons first rest ih =>
    obtain ⟨hf, hr⟩ := List.nodup_cons.mp hn
    rw [Table.get?_cons]
    rcases List.mem_cons.mp h with rfl | h
    · exact if_pos rfl
    · have hne : first.1 ≠ e.1 := fun he ↦ hf (he ▸ List.mem_map_of_mem h)
      rw [if_neg hne, ih hr h]

namespace Profile

/-- An entry of the durable store that is kept for a cookie and holds no cookie that is still live. -/
def Dead (now : Instant) (key text : String) : Prop :=
  cookieStart.toList <+: key.toList ∧ ∀ c ∈ StoredCookie.read? text, ¬ now < c.expiresAt

instance (now : Instant) (key text : String) : Decidable (Dead now key text) :=
  inferInstanceAs (Decidable (_ ∧ _))

theorem isDead_iff_forall (text : String) (now : Instant) :
    isDead text now = true ↔ ∀ c ∈ StoredCookie.read? text, ¬ now < c.expiresAt := by
  unfold isDead
  cases StoredCookie.read? text with
  | none => simp
  | some c => simp [isLive]

def hasDead (p : Profile) (key : String) : Bool := (p.host.durable.entries.get? key).any (isDead · p.now)

def purged (calls : Nat) (keys : List String) (p : Profile) : Profile :=
  { p with host := { p.host with
      durable := { p.host.durable with calls, entries := p.host.durable.entries.without keys } } }

variable {p p' : Profile} {keys : List String}

theorem purged_purged (calls calls' : Nat) (keys keys' : List String) :
    (p.purged calls keys).purged calls' keys' = p.purged calls' (keys ++ keys') := by
  simp only [purged, Table.without_without]

theorem purged_congr (calls : Nat) {keys' : List String} (h : ∀ k, k ∈ keys ↔ k ∈ keys') :
    p.purged calls keys = p.purged calls keys' := by
  simp only [purged, Table.without_congr _ h]

theorem later_eq_purged : p.later p.host.durable.entries = p.purged (p.host.durable.calls + 1) [] := by
  simp only [later, purged, Table.without_nil]

theorem hasDead_purged (calls : Nat) (keys : List String) (key : String) :
    (p.purged calls keys).hasDead key = true ↔ key ∉ keys ∧ p.hasDead key = true := by
  change ((p.host.durable.entries.without keys).get? key).any (isDead · p.now) = true ↔ _
  rw [Table.get?_without]
  by_cases h : key ∈ keys
  · simp [h]
  · simp [h, hasDead]

theorem purgeKey_eq_ok {key : String} (h : purgeKey key p = (.ok (), p')) :
    ∃ calls, p' = p.purged calls ([key].filter p.hasDead) := by
  obtain ⟨entry, p₁, h₁, h₂⟩ := bind_eq_ok h
  obtain ⟨rfl, rfl⟩ := durably_eq_ok h₁
  rw [later_eq_purged] at h₂
  cases hg : p.host.durable.entries.get? key with
  | none =>
    have hd : p.hasDead key = false := by simp [hasDead, hg]
    simp only [hg] at h₂
    cases h₂
    refine ⟨p.host.durable.calls + 1, ?_⟩
    simp only [List.filter_cons, hd, List.filter_nil, Bool.false_eq_true, if_false]
  | some text =>
    have hd : p.hasDead key = isDead text p.now := by simp [hasDead, hg]
    simp only [hg, get_bind] at h₂
    simp only [List.filter_cons, hd, List.filter_nil]
    cases hi : isDead text p.now with
    | false =>
      rw [show isDead text (p.purged _ []).now = false from hi] at h₂
      cases h₂
      exact ⟨_, rfl⟩
    | true =>
      rw [show isDead text (p.purged _ []).now = true from hi, if_pos rfl] at h₂
      obtain ⟨-, rfl⟩ := durably_eq_ok h₂
      refine ⟨p.host.durable.calls + 2, ?_⟩
      simp only [purged, later, Table.without_nil, Table.erase_eq_without]
      rfl

theorem purgeKeys_eq_ok (h : purgeKeys keys p = (.ok (), p')) :
    ∃ calls, p' = p.purged calls (keys.filter p.hasDead) := by
  induction keys generalizing p with
  | nil =>
    cases h
    exact ⟨p'.host.durable.calls, by simp [purged]⟩
  | cons key rest ih =>
    obtain ⟨⟨⟩, p₁, h₁, h₂⟩ := bind_eq_ok h
    obtain ⟨calls₁, rfl⟩ := purgeKey_eq_ok h₁
    obtain ⟨calls, rfl⟩ := ih h₂
    refine ⟨calls, ?_⟩
    rw [purged_purged]
    -- a key that comes again has lost its entry by then, if that was dead
    refine purged_congr calls fun k ↦ ?_
    simp only [List.mem_append, List.mem_filter, List.mem_cons, List.not_mem_nil, or_false, hasDead_purged]
    by_cases hk : k = key <;> by_cases hd : p.hasDead k = true <;> simp [hk, hd]

def deadKeys (p : Profile) : List String := p.cookieKeys.filter p.hasDead

/-- A purge that comes to an end has taken the dead cookies, whatever the store refuses to other work. -/
theorem purge_eq_ok (h : purge p = (.ok (), p')) : ∃ calls, p' = p.purged calls p.deadKeys := by
  obtain ⟨keys, p₁, h₁, h₂⟩ := bind_eq_ok h
  obtain ⟨rfl, rfl⟩ := durably_eq_ok (f := fun t ↦ (p.cookieKeys, t)) (c := .keys cookieStart) h₁
  obtain ⟨calls, rfl⟩ := purgeKeys_eq_ok h₂
  refine ⟨calls, ?_⟩
  rw [later_eq_purged, purged_purged, List.nil_append]
  exact purged_congr calls fun k ↦ by simp [deadKeys, List.mem_filter, hasDead_purged]

theorem mem_deadKeys {key text : String} (h : p.host.durable.entries.get? key = some text) :
    key ∈ p.deadKeys ↔ Dead p.now key text := by
  have hd : p.hasDead key = isDead text p.now := by simp [hasDead, h]
  have hmem : key ∈ p.host.durable.entries.map Prod.fst := Table.get?_ne_none_iff.mp (h ▸ Option.some_ne_none _)
  simp only [deadKeys, cookieKeys, List.mem_filter, hmem, true_and,
    Engine.keyStarts_cookieStart, hd, isDead_iff_forall, Dead]

theorem get?_purged (p : Profile) (calls : Nat) (key : String) :
    (p.purged calls p.deadKeys).host.durable.entries.get? key =
      (p.host.durable.entries.get? key).filter fun text ↦ ¬ Dead p.now key text := by
  refine (Table.get?_without _ _ _).trans ?_
  cases hg : p.host.durable.entries.get? key with
  | none => simp
  | some text => by_cases hd : Dead p.now key text <;> simp [mem_deadKeys hg, hd, Option.filter]

/-- Where no key stands twice, the entries that are left are those that are not dead, in their order. -/
theorem entries_purged (calls : Nat) (hn : (p.host.durable.entries.map Prod.fst).Nodup) :
    (p.purged calls p.deadKeys).host.durable.entries =
      p.host.durable.entries.filter fun e ↦ ¬ Dead p.now e.1 e.2 :=
  List.filter_congr fun _ he ↦ decide_eq_decide.mpr (not_congr (mem_deadKeys (Table.get?_of_mem hn he)))

/-- After a purge nothing is left that another one would take. -/
theorem deadKeys_purged (p : Profile) (calls : Nat) : (p.purged calls p.deadKeys).deadKeys = [] := by
  refine List.filter_eq_nil_iff.mpr fun key hk hd ↦ ?_
  obtain ⟨hl, hd⟩ := (hasDead_purged _ _ _).mp hd
  obtain ⟨hm, hs⟩ := List.mem_filter.mp hk
  obtain ⟨e, he, rfl⟩ := List.mem_map.mp hm
  have hm : e.1 ∈ p.host.durable.entries.map Prod.fst := List.mem_map_of_mem (List.mem_filter.mp he).1
  exact hl (List.mem_filter.mpr ⟨List.mem_filter.mpr ⟨hm, hs⟩, hd⟩)

theorem cookieStart_isPrefix (name : String) : cookieStart.toList <+: (cookieKey name).toList := by
  rw [cookieKey, String.toList_append]
  exact List.prefix_append _ _

/-- A cookie of which the store holds no dead entry is read in one call, and the store is left as it is. -/
theorem cookie_of_not_dead {name : String} (hp : p.Reliable) (hj : p.cookies = [])
    (hd : ∀ text, p.host.durable.entries.get? (cookieKey name) = some text → ¬ Dead p.now (cookieKey name) text) :
    cookie name p = (.ok ((p.host.durable.entries.get? (cookieKey name)).bind fun text ↦
      (StoredCookie.read? text).map StoredCookie.value), p.later p.host.durable.entries) := by
  have hc : cookie name p = durableCookie name p := by
    rw [cookie, get_bind, hj]
    rfl
  rw [hc, durableCookie, bind_of_ok (hp.durably_get _)]
  cases hg : p.host.durable.entries.get? (cookieKey name) with
  | none => rfl
  | some text =>
    have hlive : ¬ ∀ c ∈ StoredCookie.read? text, ¬ p.now < c.expiresAt :=
      fun h ↦ hd text hg ⟨cookieStart_isPrefix name, h⟩
    simp only
    cases hr : StoredCookie.read? text with
    | none => simp [hr] at hlive
    | some c =>
      have hl : isLive (some c.expiresAt) p.now = true := by simpa [hr, isLive] using hlive
      simp only
      rw [get_bind, show (p.later p.host.durable.entries).now = p.now from rfl, if_pos hl, Option.bind_some, hr]
      rfl

theorem bind_filter_not_dead (now : Instant) (name : String) (entry : Option String) :
    ((entry.filter fun text ↦ ¬ Dead now (cookieKey name) text).bind fun text ↦
        (StoredCookie.read? text).map StoredCookie.value) =
      (entry.bind StoredCookie.read?).bind fun c ↦ if now < c.expiresAt then some c.value else none := by
  have hk := cookieStart_isPrefix name
  cases entry with
  | none => rfl
  | some text =>
    cases hr : StoredCookie.read? text with
    | none => simp [Dead, hk, hr, Option.filter]
    | some c => by_cases hl : now < c.expiresAt <;> simp [Dead, hk, hr, hl, Option.filter]

/-- After a purge a cookie is read in one call: it is the live one the store had before. -/
theorem cookie_purged {calls : Nat} (hp : (p.purged calls p.deadKeys).Reliable) (hj : p.cookies = [])
    (name : String) : cookie name (p.purged calls p.deadKeys) =
      (.ok (((p.host.durable.entries.get? (cookieKey name)).bind StoredCookie.read?).bind fun c ↦
        if p.now < c.expiresAt then some c.value else none),
        (p.purged calls p.deadKeys).later (p.purged calls p.deadKeys).host.durable.entries) := by
  have hg := get?_purged p calls (cookieKey name)
  have hd : ∀ text, (p.purged calls p.deadKeys).host.durable.entries.get? (cookieKey name) = some text →
      ¬ Dead p.now (cookieKey name) text := fun text ht ↦ by
    rw [hg, Option.filter_eq_some_iff] at ht
    exact of_decide_eq_true ht.2
  rw [cookie_of_not_dead hp hj hd, hg, bind_filter_not_dead]

/-- Opening a profile takes the dead cookies out of the store and nothing else. It never fails on a store that
refuses nothing, and then it is at rest: opening again takes nothing, and a cookie is read without a failure and
without a change of the store. -/
theorem opened_takes_the_dead (host : Host) :
    (∀ p, opened host = (.ok (), p) →
      (∀ key, p.host.durable.entries.get? key =
        (host.durable.entries.get? key).filter fun text ↦ ¬ Dead host.now key text) ∧
      ((host.durable.entries.map Prod.fst).Nodup →
        p.host.durable.entries = host.durable.entries.filter fun e ↦ ¬ Dead host.now e.1 e.2)) ∧
    (host.durable.Reliable → ∃ p, opened host = (.ok (), p) ∧ p.now = host.now ∧
      (∃ q, opened p.host = (.ok (), q) ∧ q.now = p.now ∧ q.cookies = p.cookies ∧ q.session = p.session ∧
        q.host.durable.entries = p.host.durable.entries) ∧
      ∀ name, cookie name p =
        (.ok (((host.durable.entries.get? (cookieKey name)).bind StoredCookie.read?).bind fun c ↦
          if host.now < c.expiresAt then some c.value else none), p.later p.host.durable.entries)) := by
  refine ⟨fun p hp ↦ ?_, fun hr ↦ ?_⟩
  · obtain ⟨calls, rfl⟩ := purge_eq_ok hp
    exact ⟨get?_purged (blank host) calls, entries_purged (p := blank host) calls⟩
  · obtain ⟨p, hp, hrp⟩ := (purge_succeeds _).total (p := blank host) hr rfl
    obtain ⟨calls, rfl⟩ := purge_eq_ok hp
    refine ⟨_, hp, rfl, ?_, cookie_purged hrp rfl⟩
    obtain ⟨q, hq, -⟩ := (purge_succeeds _).total hrp rfl
    obtain ⟨calls', rfl⟩ := purge_eq_ok hq
    refine ⟨_, hq, rfl, rfl, rfl, ?_⟩
    rw [deadKeys_purged]
    exact Table.without_nil _

/-- A cookie that expires at this very instant goes, and so does a text that is no cookie. A later one stays, and so
does what only looks like a cookie's key. -/
theorem opened_takes_two_of_five :
    let live := StoredCookie.write ⟨"1", ⟨2000000000⟩⟩
    let due := StoredCookie.write ⟨"2", ⟨1000000000⟩⟩
    let durable : Durable := ⟨.memory, [("cookie:due", due), ("cookie:live", live), ("cookie:torn", "no cookie"),
      ("cookies", "1"), ("local:theme", "dark")], 0, fun _ _ ↦ false⟩
    let host : Host := ⟨durable, ⟨1000000000⟩, fun _ ↦ ⟨List.replicate 32 0, rfl⟩, 0⟩
    ∃ p, opened host = (.ok (), p) ∧
      p.host.durable.entries = [("cookie:live", live), ("cookies", "1"), ("local:theme", "dark")] ∧
      (cookie "live" p).1 = .ok (some "1") ∧ (cookie "due" p).1 = .ok none ∧ (cookie "torn" p).1 = .ok none := by
  intro live due durable host
  obtain ⟨hleft, hrest⟩ := opened_takes_the_dead host
  obtain ⟨p, hp, -, -, hc⟩ := hrest ⟨by decide, fun _ _ _ ↦ rfl⟩
  refine ⟨p, hp, ((hleft p hp).2 (by decide +kernel)).trans (by decide +kernel), ?_, ?_, ?_⟩
  all_goals
    rw [hc]
    exact congrArg Except.ok (by decide +kernel)

end Profile

end Backoffice
