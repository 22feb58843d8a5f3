import Backoffice.Proofs.Client.Answers

namespace Backoffice

open Web (Request Response Body)

/-- Whether a network delivers what a backend answers, given the exchanges before. -/
def Network.Relays (net : Network World) (backend : Backend) : Prop :=
  ∀ r w, (net r w).1.outcome = backend w.2 r

/-- The networks of a backend deliver what it answers, however long that is under way. -/
theorem Backend.network_relays (backend : Backend) (delay : List Exchange → Request → Option Nat) :
    Network.Relays (backend.network delay) backend := by
  intro r w
  simp only [Backend.network]
  cases delay w.2 r <;> rfl

namespace Call

variable {backend : Backend} {tr later : List Exchange} {r : Except ClientError Response}

theorem Goes.settles {c : Call} (h : c.Goes r later) (hb : backend.Gave tr later) :
    c.answer backend tr = r ∧ c.exchange backend tr = later ++ tr := by
  cases h with
  | unsent h => simp [answer, exchange, h]
  | lost h =>
    have ho : none = backend tr _ := hb.1
    simp [answer, exchange, h, ← ho]
  | answered h a =>
    have ho : some a = backend tr _ := hb.1
    simp [answer, exchange, h, ← ho]

theorem Refreshes.settles {token : Option String} {f : String → Call} {found : Except RefreshFailure TokenPair}
    (h : Refreshes (token.map f) found later) (hb : backend.Gave tr later) :
    (token = none ∧ found = .error .noToken ∧ later = []) ∨ ∃ t, token = some t ∧
      (f t).renewed backend tr = found ∧ (f t).exchange backend tr = later ++ tr := by
  cases h with
  | untried hn => exact .inl ⟨Option.map_eq_none_iff.mp hn, rfl, rfl⟩
  | lost hc hg =>
    obtain ⟨t, ht, rfl⟩ := Option.map_eq_some_iff.mp hc
    obtain ⟨ha, hx⟩ := hg.settles hb
    exact .inr ⟨t, ht, by rw [renewed, ha], hx⟩
  | answered hc hg hf =>
    obtain ⟨t, ht, rfl⟩ := Option.map_eq_some_iff.mp hc
    obtain ⟨ha, hx⟩ := hg.settles hb
    refine .inr ⟨t, ht, ?_, hx⟩
    rw [renewed, ha]
    exact hf

end Call

namespace Console

/-- How a request goes whose first call is `first`, made while `held` is the credential and `device`
identifies the device: the calls it makes, what it comes to, the credential after it and the
sign-outs it forced. -/
inductive Course (backend : Backend) (tr : List Exchange) (routes : Routes) (device : DeviceId)
    (held : Option Credential) (first : Call) :
    List Call → Except ClientError Response → Option Credential → Nat → Prop
  | failed {e : ClientError} (ha : first.answer backend tr = .error e) :
    Course backend tr routes device held first [first] (.error e) held 0
  | answered {r : Response} (ha : first.answer backend tr = .ok r)
    (hr : r.status ≠ unauthorized) :
    Course backend tr routes device held first [first] (.ok r) held 0
  | unrefreshable {r : Response} (ha : first.answer backend tr = .ok r)
    (hr : r.status = unauthorized) (ht : held.bind Credential.refresh = none) :
    Course backend tr routes device held first [first] (.error (.refreshFailed .noToken)) none 1
  | unrefreshed {r : Response} {token : String} {why : RefreshFailure}
    (ha : first.answer backend tr = .ok r) (hr : r.status = unauthorized)
    (ht : held.bind Credential.refresh = some token)
    (hp : (Call.renewal routes device token).renewed backend (first.exchange backend tr) =
      .error why) :
    Course backend tr routes device held first [first, .renewal routes device token]
      (.error (.refreshFailed why)) none 1
  | retried {r : Response} {c : Credential} {token : String} {pair : TokenPair}
    (ha : first.answer backend tr = .ok r) (hr : r.status = unauthorized) (hc : held = some c)
    (ht : c.refresh = some token)
    (hp : (Call.renewal routes device token).renewed backend (first.exchange backend tr) =
      .ok pair) :
    Course backend tr routes device held first
      [first, .renewal routes device token, first.retry pair.access]
      ((first.retry pair.access).answer backend
        ((Call.renewal routes device token).exchange backend (first.exchange backend tr)))
      (some ⟨pair.access, pair.refresh.or c.refresh, c.expiry⟩) 0

def exchanges (backend : Backend) (tr : List Exchange) (calls : List Call) : List Exchange :=
  calls.foldl (fun tr c ↦ c.exchange backend tr) tr

namespace Course

variable {backend : Backend} {tr later : List Exchange} {routes : Routes} {device : DeviceId}
  {held credential : Option Credential} {first : Call} {calls : List Call}
  {result : Except ClientError Response} {signOuts : Nat}

/-- What is told of a request by its exchanges is one of the courses, if a backend gave the answers. -/
theorem exists_of_asks
    (h : first.Asks held ((held.bind Credential.refresh).map (Call.renewal routes device)) result later
      credential signOuts) (hb : backend.Gave tr later) :
    ∃ calls, Course backend tr routes device held first calls result credential signOuts ∧
      later ++ tr = exchanges backend tr calls := by
  cases h with
  | settled hg hr =>
    obtain ⟨ha, hx⟩ := hg.settles hb
    cases result with
    | error e => exact ⟨[first], .failed ha, hx.symm⟩
    | ok a => exact ⟨[first], .answered ha (hr a rfl), hx.symm⟩
  | @refused a later later' why hg ha hf =>
    obtain ⟨hb', hb⟩ := Backend.gave_append.mp hb
    obtain ⟨hfirst, hx⟩ := hg.settles hb
    rw [← hx] at hb'
    rcases hf.settles hb' with ⟨hn, he, rfl⟩ | ⟨token, ht, hp, hx'⟩
    · cases he
      exact ⟨[first], .unrefreshable hfirst ha hn, hx.symm⟩
    · refine ⟨[first, .renewal routes device token], .unrefreshed hfirst ha ht hp, ?_⟩
      rw [List.append_assoc, ← hx, ← hx']
      rfl
  | @retried a later later' later'' c pair _ hg ha hc hf hr =>
    obtain ⟨hb'', hb⟩ := Backend.gave_append.mp hb
    obtain ⟨hb', hb⟩ := Backend.gave_append.mp hb
    obtain ⟨hfirst, hx⟩ := hg.settles hb
    rw [← hx] at hb'
    rcases hf.settles hb' with ⟨-, he, -⟩ | ⟨token, ht, hp, hx'⟩
    · cases he
    · rw [List.append_assoc, ← hx, ← hx'] at hb''
      obtain ⟨rfl, hx''⟩ := hr.settles hb''
      subst hc
      refine ⟨[first, .renewal routes device token, first.retry pair.access], .retried hfirst ha rfl ht hp, ?_⟩
      rw [List.append_assoc, List.append_assoc, ← hx, ← hx', ← hx'']
      rfl

theorem calls_prefix (h : Course backend tr routes device held first calls result credential
    signOuts) :
    ∃ token access, calls <+: [first, .renewal routes device token, first.retry access] := by
  cases h with
  | failed => exact ⟨"", "", _, rfl⟩
  | answered => exact ⟨"", "", _, rfl⟩
  | unrefreshable => exact ⟨"", "", _, rfl⟩
  | @unrefreshed r token => exact ⟨token, "", _, rfl⟩
  | @retried r c token pair => exact ⟨token, pair.access, [], rfl⟩

/-- Tokens are asked for just if the first answer is a refusal and there is a refresh token. -/
theorem two_le_length_iff (h : Course backend tr routes device held first calls result credential
    signOuts) :
    2 ≤ calls.length ↔ (∃ r, first.answer backend tr = .ok r ∧ r.status = unauthorized) ∧
      (held.bind Credential.refresh).isSome := by
  cases h with
  | failed ha => simp [ha]
  | answered ha hr => simpa [ha] using fun h ↦ absurd h hr
  | unrefreshable ha hr ht => simp [ht]
  | unrefreshed ha hr ht => simp [ha, hr, ht]
  | retried ha hr hc ht => simp [ha, hr, hc, ht]

theorem length_eq_three_iff (h : Course backend tr routes device held first calls result credential
    signOuts) :
    calls.length = 3 ↔ 2 ≤ calls.length ∧ ∃ token pair,
      held.bind Credential.refresh = some token ∧
      (Call.renewal routes device token).renewed backend (first.exchange backend tr) =
        .ok pair := by
  cases h with
  | failed => simp
  | answered => simp
  | unrefreshable => simp
  | unrefreshed ha hr ht hp =>
    simp only [List.length_cons, List.length_nil, ht, Option.some.injEq]
    refine ⟨fun h ↦ absurd h (by decide), ?_⟩
    intro hq
    obtain ⟨-, _, pair, rfl, hp'⟩ := hq
    rw [hp] at hp'
    cases hp'
  | @retried r c token pair ha hr hc ht hp => simp [hc, ht, hp]

end Course

end Console

namespace Workspace

variable {w : World} {n : Nat}

theorem inClient_request_told (hr : w.1.host.durable.Reliable) (ht : w.1.host.Timely) (method url : String)
    (body : Body) :
    let first : Call := ⟨method, url, (w.1.console n).view.sight.credential.map Credential.access, body⟩
    (inClient n (Console.request method url body).run).Tells (Ticks .sparing)
      (fun r w' tr ↦ (w'.console n).Reliable ∧
        Console.Asked (w.1.console n).view w.2 first r (w'.console n).view tr) w.1 w.2 := by
  intro first
  have hc : (w.1.console n).Reliable := hr
  have hs : (w.1.console n).view.sight.Timely := ht
  exact inClient_told hc (Console.request_told hs w.2 method url body)

theorem inClient_request_balanced (n : Nat) (method url : String) (body : Body) :
    (inClient n (Console.request method url body).run).Balanced [] :=
  (Console.request_balanced method url body).zoom fun _ _ h ↦ (Prod.mk.inj h).2

end Workspace

namespace Console

/-- A request that nothing runs beside, on a store that refuses nothing, takes one of the courses: in
time it makes the calls of the course, comes to what the course does and leaves its credential. The clock
may go on while it waits for its answers, as long as no cookie expires. -/
theorem request_takes_course {net : Network World} {backend : Backend} (hn : net.Serves .sparing)
    (hb : net.Relays backend) {w : World} (hr : w.1.host.durable.Reliable) (ht : w.1.host.Timely)
    (n : Nat) (method url : String) (body : Body) :
    let c := w.1.console n
    let held := (Profile.credential c.profile).1
    let device := c.profile.sight.deviceId
    let first : Call := ⟨method, url, held.map Credential.access, body⟩
    ∃ calls result credential signOuts after,
      Course backend w.2 c.context.routes device held first calls result credential signOuts ∧
      (∃ token access,
        calls <+: [first, .renewal c.context.routes device token, first.retry access]) ∧
      (2 ≤ calls.length ↔ (∃ r, first.answer backend w.2 = .ok r ∧ r.status = unauthorized) ∧
        (held.bind Credential.refresh).isSome) ∧
      (calls.length = 3 ↔ 2 ≤ calls.length ∧ ∃ token pair,
        held.bind Credential.refresh = some token ∧
        (Call.renewal c.context.routes device token).renewed backend (first.exchange backend w.2) =
          .ok pair) ∧
      Machine.Ends net (Workspace.inClient n (request method url body).run).logged (.start w) result
        after ∧
      after.2 = exchanges backend w.2 calls ∧
      (Profile.credential (after.1.console n).profile).1 = credential ∧
      (after.1.console n).context = { c.context with signOuts := c.context.signOuts + signOuts } := by
  intro c held device first
  have hh : held = c.view.sight.credential := Profile.credential_eq hr
  let W (tr : List Exchange) : Prop := ∃ later, tr = later ++ w.2 ∧ backend.Gave w.2 later
  have hW : ∀ r p, W p.2 → W (net r p).2.2 := by
    rintro r p ⟨later, hp, hl⟩
    rw [(hn r p).2, hb r p, hp]
    exact ⟨⟨r, backend (later ++ w.2) r⟩ :: later, rfl, rfl, hl⟩
  obtain ⟨result, s, tr, ⟨hs, ha⟩, ⟨later, rfl, hgave⟩, he⟩ := Machine.ends_of_tells hn.keeping
    (Workspace.Ticks.refl .sparing) hW (Workspace.inClient_request_balanced n method url body).orderly
    (Workspace.inClient_request_told hr ht method url body) ⟨[], rfl, trivial⟩
  obtain ⟨later', signOuts, hl, hasks, hx⟩ := ha.exchanges
  obtain rfl := List.append_cancel_right hl
  rw [← hh] at hasks
  have hrenewal : renewal? c.view = (held.bind Credential.refresh).map (Call.renewal c.context.routes device) := by
    rw [hh]
    rfl
  rw [hrenewal] at hasks
  obtain ⟨calls, hcourse, htr⟩ := Course.exists_of_asks hasks hgave
  refine ⟨calls, result, _, signOuts, (s, later ++ w.2), hcourse, hcourse.calls_prefix,
    hcourse.two_le_length_iff, hcourse.length_eq_three_iff, he _ ⟨rfl, rfl, rfl, rfl⟩ rfl, htr, ?_, hx⟩
  exact Profile.credential_eq hs

def renewingBackend : Backend := .ofFunction fun r ↦
  if r.auth = some (bearer "a1") then some ⟨unauthorized, []⟩
  else if r.auth = none then some ⟨200, "\x7b\"access_token\":\"a2\"\x7d".toUTF8.data.toList⟩
  else some ⟨noContent, []⟩

def slowNetwork (backend : Backend) : Network World := fun r w ↦
  let cookieless := w.1.host.durable.entries.all fun e ↦ (StoredCookie.read? e.2).isNone
  (.after 5 (backend w.2 r),
    if cookieless then { w.1 with host := { w.1.host with now := ⟨1000000000⟩ } } else w.1,
    ⟨r, backend w.2 r⟩ :: w.2)

theorem slowNetwork_serves (k : Clock) (backend : Backend) : (slowNetwork backend).Serves k := by
  intro r w
  refine ⟨?_, rfl⟩
  simp only [slowNetwork]
  split
  · next h =>
    have hnone : ∀ key text c, w.1.host.durable.entries.get? key = some text → StoredCookie.read? text ≠ some c := by
      intro key text c hg hc
      have hr := List.all_eq_true.mp h _ (Table.mem_of_get? hg)
      rw [hc] at hr
      cases hr
    have ht : ∀ remember, ((ExpiryPolicy.ofRemember remember).expiresAt? ⟨1000000000⟩).isSome := by decide
    refine ⟨⟨rfl, fun _ ↦ ht, ?_, ?_⟩, rfl⟩
    · exact fun key text c hg hr ↦ absurd hr (hnone key text c hg)
    · exact fun _ key text c hg hr ↦ absurd hr (hnone key text c hg)
  · exact .refl k w.1

/-- Signed in with the tokens `a1` and `r1`, a request is made again with `a2`. -/
theorem request_takes_course_with_new_token :
    let host : Host := ⟨.empty .memory, ⟨0⟩, fun _ ↦ ⟨List.replicate 32 0, rfl⟩, 0⟩
    let profile := (Profile.setCredential ⟨"a1", some "r1"⟩ false none (.blank host)).2
    let config := Config.ofBase "http://h"
    let w : World :=
      ((Workspace.initial host config "host").putConsole 0 ⟨profile, .fresh config "host"⟩, [])
    let net := slowNetwork renewingBackend
    ∃ after, net.Serves .sparing ∧ net.Relays renewingBackend ∧
      Machine.Ends net (Workspace.inClient 0 (request "GET" "http://h/x" .empty).run).logged (.start w)
        (.ok ⟨noContent, []⟩) after ∧
      (Profile.credential (after.1.console 0).profile).1 = some ⟨"a2", some "r1", .session⟩ := by
  intro host profile config w net
  have hn : net.Serves .sparing := slowNetwork_serves .sparing _
  have hb : net.Relays renewingBackend := fun _ _ ↦ rfl
  have hr : w.1.host.durable.Reliable := ⟨by decide, fun _ _ _ ↦ rfl⟩
  have ht : w.1.host.Timely := fun remember ↦ by cases remember <;> decide
  have hheld : (Profile.credential (w.1.console 0).profile).1 = some ⟨"a1", some "r1", .session⟩ := by
    decide +kernel
  let first : Call := ⟨"GET", "http://h/x", some "a1", .empty⟩
  let renewal := Call.renewal (w.1.console 0).context.routes (w.1.console 0).profile.sight.deviceId "r1"
  have hfirst : first.answer renewingBackend [] = .ok ⟨unauthorized, []⟩ :=
    eq_ok_of_toOption (by decide +kernel)
  have hrenewed : renewal.renewed renewingBackend (first.exchange renewingBackend []) =
      .ok ⟨"a2", none⟩ := eq_ok_of_toOption (by decide +kernel)
  have hretry : (first.retry "a2").answer renewingBackend
      (renewal.exchange renewingBackend (first.exchange renewingBackend [])) =
        .ok ⟨noContent, []⟩ := eq_ok_of_toOption (by decide +kernel)
  obtain ⟨calls, result, credential, signOuts, after, hcourse, -, -, -, hends, -, hcred, -⟩ :=
    request_takes_course hn hb hr ht 0 "GET" "http://h/x" .empty
  rw [hheld] at hcourse
  obtain ⟨rfl, rfl⟩ : result = .ok ⟨noContent, []⟩ ∧ credential = some ⟨"a2", some "r1", .session⟩ := by
    cases hcourse with
    | failed ha => cases hfirst.symm.trans ha
    | answered ha hr =>
      cases hfirst.symm.trans ha
      exact absurd rfl hr
    | unrefreshable ha hr ht => cases ht
    | unrefreshed ha hr ht hp =>
      cases ht
      cases hrenewed.symm.trans hp
    | retried ha hr hh ht hp =>
      cases hh
      cases ht
      cases hrenewed.symm.trans hp
      exact ⟨hretry, rfl⟩
  exact ⟨after, hn, hb, hends, hcred⟩

end Console

end Backoffice
