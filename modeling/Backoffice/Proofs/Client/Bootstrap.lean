import Backoffice.Proofs.Client.Answers

namespace Backoffice

open Web (Request Response Body Outcome)

/-- The answer that a call for a user got last. Such calls carry a token, those for new tokens do not. -/
def lastAnswer (tr : List Exchange) : Option Response :=
  (tr.find? (·.request.auth.isSome)).bind Exchange.outcome

/-- The session of a user, who is shown under both names with one blank between them. -/
structure Session.Shows (s : Session) (user : AdminUser) : Prop where
  userId : s.userId = user.id
  displayName : s.displayName = Text.trim (Text.trim user.firstName ++ " " ++ Text.trim user.lastName)
  email : s.email = user.email
  role : s.role = user.role
  avatar : s.avatar = user.image

theorem Session.shows_iff {s : Session} {user : AdminUser} : s.Shows user ↔ s = .ofUser user := by
  constructor
  · intro h
    obtain ⟨userId, displayName, email, role, avatar⟩ := s
    obtain ⟨rfl, rfl, rfl, rfl, rfl⟩ := h
    rfl
  · rintro rfl
    exact ⟨rfl, rfl, rfl, rfl, rfl⟩

/-- An answer that succeeds with the user of the session. -/
def Identifies (a : Response) (s : Session) : Prop :=
  a.isSuccess ∧ ∃ envelope user, envelopeOf AdminUser.decode a = .ok envelope ∧
    envelope.success = true ∧ envelope.data = some user ∧ s.Shows user

theorem isSuccess_of_envelopeOf {α : Type} {dec : Decoder α} {a : Response} {envelope : Envelope α}
    (h : envelopeOf dec a = .ok envelope) : a.isSuccess := by
  unfold envelopeOf at h
  split at h
  · next hn => simp [Response.isSuccess, hn, noContent]
  · split at h
    · cases h
    · next hs => simpa using hs

theorem identifies_iff {a : Response} {envelope : Envelope AdminUser}
    (h : envelopeOf AdminUser.decode a = .ok envelope) (s : Session) :
    Identifies a s ↔ ∃ user, envelope.result = .ok (some user) ∧ s = .ofUser user := by
  have hr : ∀ user, envelope.result = .ok (some user) ↔
      envelope.success = true ∧ envelope.data = some user := by
    intro user
    unfold Envelope.result
    split <;> simp_all
  constructor
  · rintro ⟨-, envelope', user, h', hs, hd, he⟩
    cases h.symm.trans h'
    exact ⟨user, (hr user).mpr ⟨hs, hd⟩, Session.shows_iff.mp he⟩
  · rintro ⟨user, hu, he⟩
    obtain ⟨hs, hd⟩ := (hr user).mp hu
    exact ⟨isSuccess_of_envelopeOf h, envelope, user, h, hs, hd, Session.shows_iff.mpr he⟩

theorem not_identifies_of_unauthorized {a : Response} {s : Session} (h : a.status = unauthorized) :
    ¬Identifies a s := by
  rintro ⟨hs, -⟩
  simp [Response.isSuccess, h, unauthorized] at hs

theorem lastAnswer_append {later tr : List Exchange} (h : ∀ e ∈ later, e.request.auth = none) :
    lastAnswer (later ++ tr) = lastAnswer tr := by
  have hf : later.find? (·.request.auth.isSome) = none :=
    List.find?_eq_none.mpr fun e he ↦ by simp [h e he]
  simp only [lastAnswer, List.find?_append, hf, Option.none_or]

def requestsOf (tr : List Exchange) : List (Option Request) := tr.reverse.map fun e ↦ some e.request

theorem requestsOf_append (later tr : List Exchange) :
    requestsOf (later ++ tr) = requestsOf tr ++ requestsOf later := by
  simp only [requestsOf, List.reverse_append, List.map_append]

namespace Call

variable {c first : Call} {renewal : Option Call} {r : Except ClientError Response}
  {later : List Exchange} {held left : Option Credential} {signOuts : Nat}

theorem Goes.auth (h : c.Goes r later) : ∀ e ∈ later, e.request.auth = c.token.map bearer := by
  intro e he
  cases h with
  | unsent h => cases he
  | lost h => exact List.mem_singleton.mp he ▸ Console.auth_of_buildRequest h
  | answered h a => exact List.mem_singleton.mp he ▸ Console.auth_of_buildRequest h

theorem Goes.lastAnswer {access : String} (h : c.Goes r later) (hc : c.token = some access)
    (tr : List Exchange) :
    lastAnswer (later ++ tr) = if later = [] then lastAnswer tr else r.toOption := by
  cases h with
  | unsent h => rfl
  | lost h =>
    have ha := Console.auth_of_buildRequest h
    simp [Backoffice.lastAnswer, ha, hc, Except.toOption]
  | answered h a =>
    have ha := Console.auth_of_buildRequest h
    simp [Backoffice.lastAnswer, ha, hc, Except.toOption]

theorem Goes.ne_nil {a : Response} (h : c.Goes (.ok a) later) : later ≠ [] := by
  cases h
  exact List.cons_ne_nil _ _

theorem Goes.requestsOf_prefix (h : c.Goes r later) : requestsOf later <+: [c.request?] := by
  cases h with
  | unsent h => exact List.nil_prefix
  | lost h | answered h => simp [requestsOf, h]

theorem Goes.requestsOf_eq {a : Response} (h : c.Goes (.ok a) later) :
    requestsOf later = [c.request?] := by
  cases h with
  | answered h => simp [requestsOf, h]

theorem Refreshes.auth {t : Except RefreshFailure TokenPair} (h : Refreshes renewal t later)
    (hr : ∀ c, renewal = some c → c.token = none) : ∀ e ∈ later, e.request.auth = none := by
  intro e he
  cases h with
  | untried => cases he
  | lost hc hg | answered hc hg =>
    rw [hg.auth e he, hr _ hc]
    rfl

/-- What a request comes to is the answer to its last call, if that one was answered. -/
theorem Asks.lastAnswer {access : String} (h : first.Asks held renewal r later left signOuts)
    (hf : first.token = some access) (hr : ∀ c, renewal = some c → c.token = none) :
    (∀ a, r = .ok a → lastAnswer later = some a) ∧
      ∀ e a, r = .error e → lastAnswer later = some a → a.status = unauthorized := by
  cases h with
  | settled hg hs =>
    have hl := hg.lastAnswer hf []
    rw [List.append_nil] at hl
    refine ⟨?_, ?_⟩
    · rintro a rfl
      rw [hl, if_neg hg.ne_nil]
      rfl
    · rintro e a rfl ha
      rw [hl] at ha
      split at ha <;> cases ha
  | refused hg ha hn =>
    have hl := hg.lastAnswer hf []
    rw [List.append_nil, if_neg hg.ne_nil] at hl
    -- The call for new tokens carries none, so that its answer does not count.
    rw [lastAnswer_append (hn.auth hr), hl]
    refine ⟨nofun, ?_⟩
    rintro _ _ - ⟨⟩
    exact ha
  | @retried a later later' later'' c pair r hg ha hc hn hy =>
    have hl := hg.lastAnswer hf []
    rw [List.append_nil, if_neg hg.ne_nil] at hl
    have hl' := hy.lastAnswer (show (first.retry pair.access).token = some pair.access from rfl) (later' ++ later)
    rw [hl', lastAnswer_append (hn.auth hr), hl]
    refine ⟨?_, ?_⟩
    · rintro b rfl
      rw [if_neg hy.ne_nil]
      rfl
    · rintro e b rfl hb
      split at hb
      · cases hb
        exact ha
      · cases hb

theorem Asks.exists_answer_iff {access : String} (h : first.Asks held renewal r later left signOuts)
    (hf : first.token = some access) (hr : ∀ c, renewal = some c → c.token = none) (s : Session) :
    (∃ a, r = .ok a ∧ Identifies a s) ↔ ∃ a, Backoffice.lastAnswer later = some a ∧ Identifies a s := by
  obtain ⟨hok, herror⟩ := h.lastAnswer hf hr
  constructor
  · rintro ⟨a, ha, hi⟩
    exact ⟨a, hok a ha, hi⟩
  · rintro ⟨a, ha, hi⟩
    cases r with
    | ok b =>
      obtain rfl : a = b := Option.some.inj (ha.symm.trans (hok b rfl))
      exact ⟨a, rfl, hi⟩
    | error e => exact absurd hi (not_identifies_of_unauthorized (herror e a rfl ha))

/-- The requests that may be sent, in their order: the first call, one for new tokens, one more try. -/
theorem Asks.requestsOf_prefix (h : first.Asks held renewal r later left signOuts) :
    ∃ access, requestsOf later <+:
      first.request? :: renewal.elim [] fun c ↦ [c.request?, (first.retry access).request?] := by
  cases h with
  | settled hg => exact ⟨"", hg.requestsOf_prefix.trans (List.prefix_append [_] _)⟩
  | refused hg _ hn =>
    rw [requestsOf_append, hg.requestsOf_eq]
    refine ⟨"", List.cons_prefix_cons.mpr ⟨rfl, ?_⟩⟩
    cases hn with
    | untried => exact List.nil_prefix
    | lost hc hg' | answered hc hg' =>
      subst hc
      exact hg'.requestsOf_prefix.trans (List.prefix_append [_] _)
  | @retried a later later' later'' c pair r hg _ _ hn hy =>
    rw [requestsOf_append, requestsOf_append, hg.requestsOf_eq]
    refine ⟨pair.access, List.cons_prefix_cons.mpr ⟨rfl, ?_⟩⟩
    cases hn with
    | answered hc hg' =>
      subst hc
      rw [hg'.requestsOf_eq]
      exact List.cons_prefix_cons.mpr ⟨rfl, hy.requestsOf_prefix⟩

end Call

attribute [local irreducible] Routes.ofBase

namespace Console

variable {v : View} {tr : List Exchange}

def userCall (routes : Routes) (token : Option String) : Call := ⟨"GET", routes.me, token, .empty⟩

/-- What asking for the user comes to: a session, just if the answer names its user. -/
theorem fetchCurrentUser_told (ht : v.sight.Timely) (tr : List Exchange) :
    ToldOf fetchCurrentUser v tr fun r w tr' ↦ ∃ answer,
      Asked v tr (userCall v.context.routes (v.sight.credential.map Credential.access)) answer w tr' ∧
      ∀ s, r = .ok s ↔ ∃ a, answer = .ok a ∧ Identifies a s := by
  refine ToldOf.sure_next (.read ⟨rfl, rfl, rfl⟩) ?_
  let first := userCall v.context.routes (v.sight.credential.map Credential.access)
  have hrequest := request_told ht tr "GET" v.context.routes.me .empty
  have henvelope : ToldOf (getEnvelope AdminUser.decode v.context.routes.me) v tr fun r w tr' ↦
      ∃ answer, Asked v tr first answer w tr' ∧
        ∀ e, r = .ok e ↔ ∃ a, answer = .ok a ∧ envelopeOf AdminUser.decode a = .ok e := by
    apply hrequest.bind
    · intro a w tr' ha
      cases he : envelopeOf AdminUser.decode a with
      | error e => exact .throw ⟨.ok a, ha, by simp [he]⟩
      | ok envelope => exact .pure ⟨.ok a, ha, by simp [he]⟩
    · intro e w tr' ha
      exact ⟨.error e, ha, by simp⟩
  apply henvelope.bind
  · rintro envelope w tr' ⟨answer, ha, he⟩
    obtain ⟨a, rfl, hd⟩ := (he envelope).mp rfl
    have hi := identifies_iff hd
    split
    · next hr => exact .throw ⟨.ok a, ha, fun s ↦ by simp [hi, hr]⟩
    · next hr => exact .throw ⟨.ok a, ha, fun s ↦ by simp [hi, hr]⟩
    · next hr => exact .pure ⟨.ok a, ha, fun s ↦ by simp [hi, hr, eq_comm]⟩
  · rintro e w tr' ⟨answer, ha, he⟩
    refine ⟨answer, ha, fun s ↦ ⟨nofun, ?_⟩⟩
    rintro ⟨a, rfl, -, envelope, user, hd, -⟩
    cases (he envelope).mpr ⟨a, rfl, hd⟩

structure Decided (v : View) (tr : List Exchange) (s : SessionStatus) (w : View) (tr' : List Exchange) :
    Prop where
  isSettled : s.isSettled
  credential : s.isAuthenticated ↔ w.sight.credential.isSome
  absent : v.sight.credential = none → s = .unauthenticated ∧ tr' = tr
  exchanges : ∀ c, v.sight.credential = some c → ∃ answer later left signOuts, tr' = later ++ tr ∧
    (userCall v.context.routes (some c.access)).Asks (some c) (renewal? v) answer later left signOuts ∧
    ∀ session, s = .authenticated session ↔ ∃ a, answer = .ok a ∧ Identifies a session

namespace Decided

variable {s : SessionStatus} {w : View}

theorem requestsOf_prefix {c : Credential} (hd : Decided v [] s w tr) (hc : v.sight.credential = some c) :
    ∃ renewed, let first := userCall v.context.routes (some c.access)
      requestsOf tr <+: first.request? :: c.refresh.elim [] fun token ↦
        [(Call.renewal v.context.routes v.sight.deviceId token).request?, (first.retry renewed).request?] := by
  obtain ⟨answer, later, left, signOuts, rfl, hasks, -⟩ := hd.exchanges c hc
  obtain ⟨renewed, hp⟩ := hasks.requestsOf_prefix
  refine ⟨renewed, ?_⟩
  rw [renewal?, hc, Option.bind_some] at hp
  rw [List.append_nil]
  cases ht : c.refresh with
  | none =>
    rw [ht] at hp
    exact hp
  | some token =>
    rw [ht] at hp
    exact hp

/-- The last answer names who is signed in. -/
theorem authenticated_iff (hd : Decided v [] s w tr) (u : Session) :
    s = .authenticated u ↔ ∃ a, lastAnswer tr = some a ∧ Identifies a u := by
  cases hc : v.sight.credential with
  | none =>
    obtain ⟨rfl, rfl⟩ := hd.absent hc
    simp [lastAnswer]
  | some c =>
    obtain ⟨answer, later, left, signOuts, rfl, hasks, hu⟩ := hd.exchanges c hc
    rw [hu u, List.append_nil]
    refine hasks.exists_answer_iff rfl (fun c hc ↦ ?_) u
    obtain ⟨token, -, rfl⟩ := Option.map_eq_some_iff.mp hc
    rfl

end Decided

theorem settled_told (ht : v.sight.Timely) (tr : List Exchange) :
    Told bootstrap.settled v tr (Decided v tr) := by
  refine Told.next (credential_told v tr) ?_
  cases hc : v.sight.credential with
  | none =>
    refine .done ⟨rfl, ?_, fun _ ↦ ⟨rfl, rfl⟩, fun c hc' ↦ ?_⟩
    · rw [hc]
      exact .rfl
    · cases hc.symm.trans hc'
  | some c =>
    refine Told.bind (fetchCurrentUser_told ht tr) ?_
    rintro r w tr' ⟨answer, ha, hs⟩
    obtain ⟨later, signOuts, rfl, hasks, -⟩ := ha.exchanges
    rw [hc] at hasks
    cases r with
    | ok session =>
      obtain ⟨a, rfl, -⟩ := (hs session).mp rfl
      refine .done ⟨rfl, ⟨fun _ ↦ hasks.isSome_of_ok rfl, fun _ ↦ rfl⟩, ?_, ?_⟩
      · intro hn
        cases hc.symm.trans hn
      · rintro c' hc'
        cases hc.symm.trans hc'
        exact ⟨_, later, _, _, rfl, hasks, fun s ↦ by rw [← hs s]; simp⟩
    | error e =>
      refine Told.next (discardCredential_told w _) (.done ⟨rfl, ?_, ?_, ?_⟩)
      · rw [Sight.credential_clearCredential]
        exact .rfl
      · intro hn
        cases hc.symm.trans hn
      · rintro c' hc'
        cases hc.symm.trans hc'
        exact ⟨_, later, _, _, rfl, hasks, fun s ↦ by simp [← hs s]⟩

structure Started (v : View) (tr : List Exchange) (s : SessionStatus) (w : View) (tr' : List Exchange) :
    Prop where
  status : w.context.status = s
  seen : w.context.seen = w.context.signOuts
  decided : Decided v tr s w tr'

theorem bootstrap_told (ht : v.sight.Timely) (tr : List Exchange) :
    Told bootstrap v tr (Started v tr) := by
  refine Told.next (.modify ⟨rfl, rfl, rfl⟩) ?_
  refine Told.bind (settled_told (v := settled v .bootstrapping) ht tr) fun s w tr' hs ↦ ?_
  refine Told.next (.modify ⟨rfl, rfl, rfl⟩) (.done ⟨rfl, rfl, ?_⟩)
  exact ⟨hs.isSettled, hs.credential, hs.absent, hs.exchanges⟩

theorem start_told (ht : v.sight.Timely) (tr : List Exchange) :
    ToldOf start v tr fun r w tr' ↦ ∃ s, r = .ok s ∧ Started v tr s w tr' := by
  refine ToldOf.stored_next (Profile.purge_succeeds v.sight).does ?_
  exact ToldOf.sure ((bootstrap_told ht tr).mono fun s w tr' h ↦ ⟨s, rfl, h⟩)

theorem start_balanced : start.run.Balanced [] := by
  refine (stored_balanced _).except_bind fun _ ↦ Task.Balanced.lift ?_
  refine (modify_balanced _).bind fun _ ↦ Task.Balanced.bind ?_ fun _ ↦ ?_
  · refine Task.Balanced.bind (.state _) fun c ↦ ?_
    cases c with
    | none => exact .done _
    | some c =>
      refine fetchCurrentUser_balanced.bind fun r ↦ ?_
      cases r with
      | ok s => exact .done _
      | error e => exact discardCredential_balanced.bind fun _ ↦ .done _
  · exact (modify_balanced _).bind fun _ ↦ .done _

end Console

/-- The token in a durable cookie that can be read, is live and not empty. -/
def Host.token (name : String) (h : Host) : Option String :=
  Profile.nonempty? ((Profile.liveCookie h.now
    (h.durable.entries.get? (Profile.cookieKey name))).map Cookie.value)

theorem Host.credential_blank (h : Host) : (Profile.sight (.blank h)).credential =
    (h.token Profile.accessCookie).map fun access ↦
      ⟨access, h.token Profile.refreshCookie, .ofRemember (Profile.sight (.blank h)).remembers⟩ := rfl

namespace Workspace

variable {w : Workspace} {ε β : Type} {rely : Workspace → Workspace → Prop} {tr : List Exchange}
  {Q : Except ε β → Workspace → List Exchange → Prop}

theorem allot_told {g : Nat → ExceptT ε WorkspaceM β}
    (hg : (g w.next).run.Tells rely Q { w with next := w.next + 1 } tr) :
    (ExceptT.lift allot >>= g).run.Tells rely Q w tr := hg

theorem addClient_told {store : Nat} {context : Context} {g : Nat → ExceptT ε WorkspaceM β}
    (hg : (g w.next).run.Tells rely Q (w.withClient store context) tr) :
    (ExceptT.lift (addClient store context) >>= g).run.Tells rely Q w tr := hg

theorem start_told (config : Config) (hostName : String) (hr : w.host.durable.Reliable)
    (ht : w.host.Timely) (hf : w.sessionStores w.next = ⟨[], []⟩) (tr : List Exchange) :
    (start config hostName).run.Tells (Ticks .sparing) (fun r w' tr' ↦ ∃ s, r = .ok s ∧
      (w'.console w'.current).Reliable ∧
      Console.Started ⟨Profile.sight (.blank w.host), .fresh config hostName⟩ tr s
        (w'.console w'.current).view tr') w tr := by
  have hc := console_withFresh config hostName hf
  let v : View := ⟨Profile.sight (.blank w.host), .fresh config hostName⟩
  have hv : v.sight.Timely := ht
  have hs : Console.ToldOf Console.start ((w.withFresh config hostName).console (w.next + 1)).view tr
      fun r u tr' ↦ ∃ s, r = .ok s ∧ Console.Started v tr s u tr' := by
    rw [hc]
    exact Console.start_told (v := v) hv tr
  refine allot_told (addClient_told (Task.Tells.lift_bind (inClient_told (hc ▸ hr) hs) ?_))
  rintro _ w₃ tr' ⟨hr₃, s, rfl, hst⟩
  exact ⟨s, rfl, hr₃, hst⟩

theorem start_balanced (config : Config) (hostName : String) :
    (start config hostName).run.Balanced [] := by
  have hb : ∀ n, (inClient n Console.start.run).Balanced [] := fun n ↦
    Console.start_balanced.zoom fun _ _ h ↦ (Prod.mk.inj h).2
  refine Task.Balanced.except_bind ⟨fun _ ↦ rfl⟩ fun store ↦ ?_
  refine Task.Balanced.except_bind ⟨fun _ ↦ rfl⟩ fun n ↦ ?_
  refine (hb n).lift.except_bind fun r ↦ ?_
  cases r with
  | error e => exact .done _
  | ok s => exact ⟨rfl⟩

def sessionOfAda : Session := ⟨⟨"u1"⟩, "Ada King", "ada@h", none, none⟩

/-- Over a stored token that is refused, a client starts with the one that is given for it. -/
theorem exists_renewing_start :
    ∃ (host : Host) (net : Network World) (w : World),
      host.durable.Reliable ∧ host.Timely ∧ net.Serves .sparing ∧
      host.token Profile.accessCookie = some "a1" ∧
      WorkspaceM.Runs net (start (.ofBase "http://h") "host").run
        (.initial host (.ofBase "http://h") "host", []) (.ok (.authenticated sessionOfAda)) w ∧
      w.2.length = 3 := by
  let empty : Host := ⟨.empty .memory, ⟨0⟩, fun _ ↦ ⟨List.replicate 32 0, rfl⟩, 0⟩
  let host := (Profile.setCredential ⟨"a1", some "r1"⟩ true none (.blank empty)).2.host
  let config := Config.ofBase "http://h"
  let backend : Backend := .ofFunction fun r ↦
    if r.auth = some (bearer "a1") then some ⟨unauthorized, []⟩
    else if r.auth = none then some ⟨200, "\x7b\"access_token\":\"a2\"\x7d".toUTF8.data.toList⟩
    else some ⟨200, ("\x7b\"success\":true,\"data\":\x7b\"id\":\"u1\",\"firstName\":\" Ada\"," ++
      "\"lastName\":\"King \",\"email\":\"ada@h\"\x7d\x7d").toUTF8.data.toList⟩
  let net : Network World := backend.network fun _ _ ↦ some 5
  let w₀ : World := (.initial host config "host", [])
  let task := (start config "host").run
  let w₁ := (Machine.run net 9 task.logged w₀).2.state
  have hn : net.Serves .sparing := backend.network_serves .sparing _
  have ht : host.Timely := fun remember ↦ by cases remember <;> decide +kernel
  obtain ⟨hs, hl, htoken⟩ : (Machine.run net 9 task.logged w₀).1.bind Except.toOption =
      some (.authenticated sessionOfAda) ∧ w₁.2.length = 3 ∧ host.token Profile.accessCookie = some "a1" := by
    decide +kernel
  have h₁ : WorkspaceM.Runs net task w₀ (.ok (.authenticated sessionOfAda)) w₁ := .of_toOption hs
  exact ⟨host, net, w₁, ⟨by decide, fun _ _ _ ↦ rfl⟩, ht, hn, htoken, h₁, hl⟩

/-- What is stored decides how a client starts, and where there is a token, the backend does. On a store
that refuses nothing, whatever it holds, and any network, as long as no cookie expires meanwhile, a start
comes to a settled status. Somebody is signed in then just if there is a credential. Without a stored token
nothing is sent. With one, the user is asked for, new tokens are asked for at most once, and the user again
at most once; the last answer that there is to such a call names who is signed in. -/
theorem start_decides {host : Host} (config : Config) (hostName : String) {net : Network World}
    (hr : host.durable.Reliable) (ht : host.Timely) (hn : net.Serves .sparing) :
    let routes := Routes.ofBase config.apiUrl
    let device := (Profile.sight (.blank host)).deviceId
    ∃ status w, Machine.Ends net (start config hostName).run.logged
        (.start (.initial host config hostName, [])) (.ok status) w ∧
      let after := w.1.console w.1.current
      status.isSettled ∧
      (∀ backend, (Console.status.run backend after w.2).result = status) ∧
      (status.isAuthenticated ↔ (Profile.credential after.profile).1.isSome) ∧
      (host.token Profile.accessCookie = none → w.2 = []) ∧
      (∀ access, host.token Profile.accessCookie = some access → ∃ renewed,
        let first := Console.userCall routes (some access)
        requestsOf w.2 <+: first.request? :: (host.token Profile.refreshCookie).elim [] fun token ↦
          [(Call.renewal routes device token).request?, (first.retry renewed).request?]) ∧
      ∀ s, status = .authenticated s ↔ ∃ a, lastAnswer w.2 = some a ∧ Identifies a s := by
  intro routes device
  let v : View := ⟨Profile.sight (.blank host), .fresh config hostName⟩
  let w₀ : Workspace := .initial host config hostName
  have hv : v.sight.credential = (host.token Profile.accessCookie).map _ := host.credential_blank
  obtain ⟨_, s, tr, ⟨status, rfl, hr', hst⟩, -, he⟩ := Machine.ends_of_tells hn.keeping
    (Ticks.refl .sparing) (W := fun _ ↦ True) (fun _ _ ↦ id) (start_balanced config hostName).orderly
    (p := (w₀, [])) (start_told (w := w₀) config hostName hr ht rfl []) trivial
  have hd : Console.Decided v [] status _ tr := hst.decided
  refine ⟨status, (s, tr), he _ ⟨rfl, rfl, rfl, rfl⟩ rfl, hd.isSettled, fun _ ↦ ?_, ?_, fun hn ↦ ?_,
    fun access ha ↦ ?_, hd.authenticated_iff⟩
  · change (s.console s.current).context.observed.status = status
    have hseen : (s.console s.current).context.seen = (s.console s.current).context.signOuts := hst.seen
    simp only [Context.observed, hseen, bne_self_eq_false, Bool.and_false]
    exact hst.status
  · rw [Profile.credential_eq hr']
    exact hd.credential
  · exact (hd.absent (by rw [hv, hn]; rfl)).2
  · rw [ha] at hv
    exact hd.requestsOf_prefix hv

/-- The stored token `a1` is refused, `a2` is given for it, and the user is asked for again: Ada, whose names come with
blanks around them. -/
theorem start_decides_after_renewal :
    ∃ (host : Host) (net : Network World) (w : World),
      host.token Profile.accessCookie = some "a1" ∧
      Machine.Ends net (start (.ofBase "http://h") "host").run.logged
        (.start (.initial host (.ofBase "http://h") "host", [])) (.ok (.authenticated sessionOfAda)) w ∧
      w.2.length = 3 ∧ (Profile.credential (w.1.console w.1.current).profile).1.isSome ∧
      ∃ a, lastAnswer w.2 = some a ∧ Identifies a sessionOfAda := by
  obtain ⟨host, net, w', hr, ht, hn, htoken, hruns, hl⟩ := exists_renewing_start
  obtain ⟨status, w, he, -, -, hc, -, -, hu⟩ := start_decides (.ofBase "http://h") "host" hr ht hn
  obtain ⟨events, m, hrun, rfl⟩ := hruns
  obtain ⟨hs, rfl⟩ := he.eq_of_run hrun
  cases hs
  exact ⟨host, net, m.state, htoken, he, hl, hc.mp rfl, (hu sessionOfAda).mp rfl⟩

end Workspace

end Backoffice
