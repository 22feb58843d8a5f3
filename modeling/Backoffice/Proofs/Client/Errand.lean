import Backoffice.Proofs.Client.Inquiry
import Backoffice.Proofs.Client.SignIn

namespace Backoffice

open Web (Request Response Body Outcome)
open Console

attribute [local irreducible] Routes.ofBase

inductive Job where
  | request (method url : String) (body : Body)
  | login (email password : String) (remember : Bool)
  | signOut

namespace Job

def isRequest : Job → Bool
  | request _ _ _ => true
  | _ => false

def isLogin : Job → Bool
  | login _ _ _ => true
  | _ => false

end Job

inductive Reply where
  | answer (x : Except ClientError Response)
  | signedIn (x : Except ClientError Bool)
  | signedOut (x : Except ClientError Unit)
  deriving DecidableEq

def Job.task : Job → ConsoleM Reply
  | request method url body => (Console.request method url body).run.bind fun x ↦ .done (.answer x)
  | login email password remember =>
    (Console.login email password remember).run.bind fun x ↦ .done (.signedIn x)
  | signOut => Console.signOut.run.bind fun x ↦ .done (.signedOut x)

inductive Aim where
  | answer
  | session

inductive Phase where
  | ready (j : Job)
  | granting (remember : Bool) (payload : LoginPayload) (r : Request)
  | inquiring (a : Aim) (c : Call) (s : Stage)
  | ended (reply : Reply)

def currentUser (x : Except ClientError Response) : Except ClientError Session :=
  (x.bind (envelopeOf AdminUser.decode)).bind fun envelope ↦
    match envelope.result with
    | .error m => .error (.rejected m)
    | .ok none => .error (.decode .noCurrentUser)
    | .ok (some user) => .ok (.ofUser user)

def grantedTokens (o : Outcome) : Except ClientError TokenPair := (received o).bind loginTokens

namespace Aim

def ending : Aim → Except ClientError Response → ConsoleM Reply
  | answer, x => .done (.answer x)
  | session, x =>
    match currentUser x with
    | .ok s => (setStatus (.authenticated s)).bind fun _ ↦ .done (.signedIn (.ok true))
    | .error _ => discardCredential.bind fun _ ↦
      (setStatus .unauthenticated).bind fun _ ↦ .done (.signedIn (.ok false))

/-- What a request comes to when it is over, and what becomes of the view. -/
def close : Aim → Except ClientError Response → View → Reply × View
  | answer, x, v => (.answer x, v)
  | session, x, v =>
    match currentUser x with
    | .ok s => (.signedIn (.ok true), settled v (.authenticated s))
    | .error _ =>
      (.signedIn (.ok false), settled ⟨v.sight.clearCredential, v.context⟩ .unauthenticated)

def inquiry (a : Aim) (c : Call) : Inquiry Reply := ⟨c, a.ending⟩

end Aim

def Onward.enter (a : Aim) (c : Call) (v : View) : Onward → Phase × View
  | waits s => (.inquiring a c s, v)
  | ended x => (.ended (a.close x v).1, (a.close x v).2)

def Aim.begin (a : Aim) (c : Call) (v : View) : Phase × View :=
  let token := v.sight.credential.map Credential.access
  (Onward.calling { c with token } (.asked token)).enter a c v

def left (v : View) : View :=
  settled ⟨v.sight.clearCredential.clearRemembered, v.context.observed⟩ .unauthenticated

inductive Phase.Goes : Phase → View → List Gate → Turn → Phase × View → List Gate → Prop
  | asks {method url : String} {body : Body} {v : View} {held : List Gate} :
      Goes (.ready (.request method url body)) v held .start
        (Aim.answer.begin ⟨method, url, none, body⟩ v) held
  | inquires {a : Aim} {c : Call} {s : Stage} {v v' : View} {held held' : List Gate} {t : Turn}
      {on : Onward} (hs : s.Goes c v held t on v' held') :
      Goes (.inquiring a c s) v held t (on.enter a c v') held'
  | knocks {email password : String} {remember : Bool} {v : View} {held : List Gate} {r : Request}
      (hr : (loginCall v.context.routes (loginPayload v email password)).request? = some r) :
      Goes (.ready (.login email password remember)) v held .start
        (.granting remember (loginPayload v email password) r,
          settled ⟨v.sight.identified, v.context⟩ .loading) held
  | unsent {email password : String} {remember : Bool} {v : View} {held : List Gate}
      (hr : (loginCall v.context.routes (loginPayload v email password)).request? = none) :
      Goes (.ready (.login email password remember)) v held .start
        (.ended (.signedIn (.ok false)),
          settled ⟨v.sight.identified, v.context⟩ .unauthenticated) held
  | rejected {remember : Bool} {payload : LoginPayload} {r : Request} {o : Outcome} {e : ClientError}
      {v : View} {held : List Gate} (hp : grantedTokens o = .error e) :
      Goes (.granting remember payload r) v held (.answer o)
        (.ended (.signedIn (.ok false)), settled v .unauthenticated) held
  | granted {remember : Bool} {payload : LoginPayload} {r : Request} {o : Outcome} {pair : TokenPair}
      {v : View} {held : List Gate} (hp : grantedTokens o = .ok pair) :
      Goes (.granting remember payload r) v held (.answer o)
        (Aim.session.begin ⟨"GET", v.context.routes.me, none, .empty⟩
          ⟨v.sight.setCredential pair remember (some payload), v.context⟩) held
  | leaves {v : View} {held : List Gate} :
      Goes (.ready .signOut) v held .start (.ended (.signedOut (.ok ())), left v) held

theorem Phase.Goes.of_renewing {a : Aim} {c : Call} {token : Option String} {r : Request} {o : Outcome}
    {v : View} {held held' : List Gate} {q : Phase × View}
    (h : Goes (.inquiring a c (.renewing token r)) v held (.answer o) q held') :
    held' = held.erase .refresh ∧ match receivedTokens o with
      | .ok pair => q = (Onward.calling (c.retry pair.access) .retrying).enter a c
          ⟨v.sight.writeTokens pair v.sight.remembers, v.context⟩
      | .error why => q = (Onward.ended (.error (.refreshFailed why))).enter a c (signedOut v) := by
  cases h with
  | inquires hs =>
    cases hs with
    | unrenewed hp => exact ⟨rfl, by rw [hp]⟩
    | renewed hp => exact ⟨rfl, by rw [hp]⟩

namespace Phase

def rejected : ConsoleM Reply := (setStatus .unauthenticated).bind fun _ ↦ .done (.signedIn (.ok false))

def knocked (remember : Bool) (payload : LoginPayload) : Except ClientError Response → ConsoleM Reply
  | .error _ => rejected
  | .ok answer =>
    match loginTokens answer with
    | .error _ => rejected
    | .ok pair => (stored (Profile.setCredential pair remember (some payload))).run.bind fun
      | .error _ => rejected
      | .ok () => (Console.read Context.routes).bind fun routes ↦
        (Aim.session.inquiry ⟨"GET", routes.me, none, .empty⟩).task

def strand : Phase → Strand Gate Console Reply
  | ready j => .ready j.task
  | granting remember payload r => .sent r fun o ↦ knocked remember payload (received o)
  | inquiring a c s => (a.inquiry c).strand s
  | ended reply => .ended reply

def request? : Phase → Option Request
  | granting _ _ r => some r
  | inquiring _ _ (.asked _ r) => some r
  | inquiring _ _ (.renewing _ r) => some r
  | inquiring _ _ (.retrying r) => some r
  | _ => none

def exchange? (p : Phase) : Turn → Option Exchange
  | .answer o => p.request?.map fun r ↦ ⟨r, o⟩
  | _ => none

theorem strand_underway (p : Phase) : p.strand.underway = p.request?.toList := by
  cases p with
  | inquiring a c s => cases s <;> rfl
  | _ => rfl

theorem strand_exchange? (p : Phase) (t : Turn) : p.strand.exchange? t = p.exchange? t := by
  cases p with
  | inquiring a c s => cases s <;> cases t <;> rfl
  | _ => cases t <;> rfl

variable {v : View} {held : List Gate}

theorem ending_leads (a : Aim) (x : Except ClientError Response) :
    Leads (a.ending x) v held (fun share ↦ ((Phase.ended (a.close x v).1).strand, share))
      (a.close x v).2 held := by
  cases a with
  | answer => exact .refl _ v held
  | session =>
    simp only [Aim.ending, Aim.close]
    cases currentUser x with
    | ok s => exact (Leads.modify _ _).trans (.refl _ _ held)
    | error e => exact (discardCredential_leads _).trans ((Leads.modify _ _).trans (.refl _ _ held))

theorem park_leads (held : List Gate) (a : Aim) (c : Call) (on : Onward) {d : Console}
    (hd : d.Reliable) :
    ∃ d', (a.inquiry c).park on ⟨d, held⟩ = ((on.enter a c d.view).1.strand, ⟨d', held⟩) ∧
      d'.Reliable ∧ d'.view = (on.enter a c d.view).2 := by
  cases on with
  | waits s => exact ⟨d, rfl, hd, rfl⟩
  | ended x => exact (ending_leads a x).park d hd rfl

theorem begin_leads (a : Aim) (c : Call) :
    Leads (a.inquiry c).task v held (fun share ↦ ((a.begin c v).1.strand, share)) (a.begin c v).2
      held where
  park d hd hv := by
    obtain ⟨d', he, hd', rfl⟩ := (Inquiry.first_leads (q := a.inquiry c) v held).park d hd hv
    obtain ⟨d'', he', hd'', hv''⟩ := park_leads held a c
      (.calling { c with token := d'.view.sight.credential.map Credential.access } (.asked _)) hd'
    exact ⟨d'', he.trans he', hd'', hv''⟩

theorem rejected_leads :
    Leads rejected v held (fun share ↦ ((Phase.ended (.signedIn (.ok false))).strand, share))
      (settled v .unauthenticated) held :=
  (Leads.modify _ _).trans (.refl _ _ held)

theorem knocked_leads {remember : Bool} {payload : LoginPayload} {r : Request} {o : Outcome}
    (ht : v.sight.Timely) :
    ∃ q held', Goes (.granting remember payload r) v held (.answer o) q held' ∧
      Leads (knocked remember payload (received o)) v held (fun share ↦ (q.1.strand, share)) q.2
        held' := by
  cases o with
  | none => exact ⟨_, held, .rejected rfl, rejected_leads⟩
  | some answer =>
    simp only [received, knocked]
    cases hp : loginTokens answer with
    | error e =>
      have hg : grantedTokens (some answer) = .error e := hp
      exact ⟨_, held, .rejected hg, rejected_leads⟩
    | ok pair =>
      have hg : grantedTokens (some answer) = .ok pair := hp
      refine ⟨_, held, .granted hg, ?_⟩
      refine (Leads.stored (Profile.setCredential_succeeds pair (some payload) (ht remember)).does
        _).trans ((Leads.read Context.routes _).trans ?_)
      exact begin_leads .session _

theorem fetchCurrentUser_bind (k : Except ClientError Session → ConsoleM Reply) :
    fetchCurrentUser.run.bind k = (Console.read Context.routes).bind fun routes ↦
      (request "GET" routes.me .empty).run.bind fun x ↦ k (currentUser x) := by
  refine sure_bind_then_eq fun routes ↦ (bind_then _ _ _).trans (bind_then_eq (fun answer ↦ ?_) fun _ ↦ rfl)
  simp only [currentUser, Except.bind]
  cases envelopeOf AdminUser.decode answer with
  | error e => rfl
  | ok envelope =>
    change Task.bind (ExceptT.run (match envelope.result with
      | .error m => throw (.rejected m)
      | .ok none => throw (.decode .noCurrentUser)
      | .ok (some user) => return .ofUser user : Action Session)) k = k (match envelope.result with
      | .error m => .error (.rejected m)
      | .ok none => .error (.decode .noCurrentUser)
      | .ok (some user) => .ok (.ofUser user))
    rcases envelope.result with m | _ | user <;> rfl

def signedIn : Except ClientError Session → ConsoleM Reply
  | .ok s => (setStatus (.authenticated s)).bind fun _ ↦ .done (.signedIn (.ok true))
  | .error _ => rejected

theorem tryLogin_bind (remember : Bool) (payload : LoginPayload) :
    (tryLogin payload remember).run.bind signedIn = (Console.read Context.routes).bind fun routes ↦
      (sendOnce "POST" routes.login none (.json payload.toJson)).run.bind
        (knocked remember payload) := by
  refine sure_bind_then_eq fun routes ↦ bind_then_eq (fun answer ↦ ?_) fun _ ↦ rfl
  simp only [knocked]
  cases loginTokens answer with
  | error e => rfl
  | ok pair =>
    refine bind_then_eq (fun _ ↦ ?_) fun _ ↦ rfl
    refine (sure_bind_then _ _ _).trans ((fetchCurrentUser_bind _).trans ?_)
    congr 1
    funext routes
    change _ = (request "GET" routes.me .empty).run.bind Aim.session.ending
    congr 1
    funext x
    simp only [Aim.ending]
    cases currentUser x with
    | ok s => rfl
    | error e => exact sure_bind_then _ _ _

theorem login_eq (email password : String) (remember : Bool) :
    (Job.login email password remember).task = (stored Profile.deviceId).run.bind fun
      | .error e => .done (.signedIn (.error e))
      | .ok id => (Console.read fun c ↦ c).bind fun context ↦
        (setStatus .loading).bind fun _ ↦
          (tryLogin ⟨Text.trim email, password,
            .ofHost id context.hostName context.config.appVersion⟩ remember).run.bind signedIn := by
  refine bind_then_eq (fun id ↦ sure_bind_then_eq fun context ↦ ?_) fun _ ↦ rfl
  change ((loginWith _ remember).bind fun b ↦ .done (Except.ok b)).bind _ = _
  simp only [loginWith, Task.bind_eq, Task.bind_assoc]
  congr 1
  funext u
  congr 1
  funext r
  cases r <;> rfl

theorem login_leads (email password : String) (remember : Bool) :
    ∃ q, Goes (.ready (.login email password remember)) v held .start q held ∧
      Leads (Job.login email password remember).task v held (fun share ↦ (q.1.strand, share)) q.2
        held := by
  let payload := loginPayload v email password
  let call := loginCall v.context.routes payload
  have hl : Leads (Job.login email password remember).task v held
      ((sendOnce call.method call.url call.token call.body).run.bind (knocked remember payload)).park
      (settled ⟨v.sight.identified, v.context⟩ .loading) held := by
    rw [login_eq]
    refine (Leads.stored (Profile.deviceId_succeeds v.sight).does _).trans ?_
    refine (Leads.read _ _).trans ((Leads.modify _ _).trans ?_)
    rw [tryLogin_bind]
    exact .read Context.routes _
  have hp := Inquiry.sendOnce_park call (knocked remember payload)
  cases hr : call.request? with
  | none =>
    rw [hr] at hp
    refine ⟨_, .unsent hr, hl.trans ⟨fun c hc hv ↦ ?_⟩⟩
    rw [hp]
    exact (rejected_leads (v := settled ⟨v.sight.identified, v.context⟩ .loading)).park c hc hv
  | some r =>
    rw [hr] at hp
    exact ⟨_, .knocks hr, hl.trans ⟨fun c hc hv ↦ ⟨c, congrFun hp _, hc, hv⟩⟩⟩

theorem signOut_leads :
    Leads Job.signOut.task v held
      (fun share ↦ ((Phase.ended (.signedOut (.ok ()))).strand, share)) (left v) held := by
  have he : Job.signOut.task = (modify Context.observed).bind fun _ ↦
      (Console.read Context.status).bind fun _ ↦ (stored Profile.clearCredential).run.bind fun
        | .error e => .done (.signedOut (.error e))
        | .ok () => (stored Profile.clearRemembered).run.bind fun
          | .error e => .done (.signedOut (.error e))
          | .ok () => (setStatus .unauthenticated).bind fun _ ↦ .done (.signedOut (.ok ())) := by
    refine (sure_bind_then _ _ _).trans ?_
    change (((modify Context.observed).bind fun _ ↦ Console.read Context.status).bind fun s ↦
      .done s.session?).bind _ = _
    rw [Task.bind_assoc, Task.bind_assoc]
    congr 1
    funext u
    congr 1
    funext s
    exact bind_then_eq (fun _ ↦ bind_then_eq (fun _ ↦ rfl) fun _ ↦ rfl) fun _ ↦ rfl
  rw [he]
  refine (Leads.modify _ _).trans ((Leads.read _ _).trans ?_)
  refine (Leads.stored (v := ⟨v.sight, v.context.observed⟩)
    (Profile.clearCredential_succeeds v.sight).does _).trans ?_
  refine (Leads.stored (Profile.clearRemembered_succeeds _).does _).trans ?_
  exact (Leads.modify _ _).trans (.refl _ _ held)

theorem goes_of_leads {p : Phase} {t : Turn} {c : Console} {q : Phase × View} {g held' : List Gate}
    {u : ConsoleM Reply} (hc : c.Reliable) (hq : p.Goes c.view held t q held')
    (hl : Leads u c.view g (fun share ↦ (q.1.strand, share)) q.2 held') :
    ∃ p' c' held', p.Goes c.view held t (p', c'.view) held' ∧ c'.Reliable ∧
      u.park ⟨c, g⟩ = (p'.strand, ⟨c', held'⟩) := by
  obtain ⟨c', he, hc', hv'⟩ := hl.park c hc rfl
  exact ⟨q.1, c', held', hv' ▸ hq, hc', he⟩

/-- On a store that refuses nothing, whatever a task does at a turn is one of the ways in which tasks go
on. -/
theorem go_goes {p : Phase} {t : Turn} {c : Console}
    {x : Strand Gate Console Reply × Share Gate Console} (hc : c.Reliable)
    (ht : c.view.sight.Timely) (hg : p.strand.go t ⟨c, held⟩ = some x) :
    ∃ p' c' held', p.Goes c.view held t (p', c'.view) held' ∧ c'.Reliable ∧
      x = (p'.strand, ⟨c', held'⟩) := by
  cases p with
  | ready j =>
    cases t <;> simp only [strand, Strand.go, Option.some.injEq, reduceCtorEq] at hg
    subst hg
    cases j with
    | request method url body =>
      have hl : Leads (Job.request method url body).task c.view held _ _ held :=
        begin_leads .answer ⟨method, url, none, body⟩
      exact goes_of_leads hc .asks hl
    | login email password remember =>
      obtain ⟨q, hq, hl⟩ := login_leads email password remember
      exact goes_of_leads hc hq hl
    | signOut => exact goes_of_leads hc .leaves signOut_leads
  | granting remember payload r =>
    cases t <;> simp only [strand, Strand.go, Option.some.injEq, reduceCtorEq] at hg
    subst hg
    obtain ⟨q, held', hq, hl⟩ := knocked_leads ht
    exact goes_of_leads hc hq hl
  | inquiring a d s =>
    obtain ⟨on, c', held', hs, hc', rfl⟩ := Inquiry.go_goes hc ht hg
    obtain ⟨c'', he, hc'', hv''⟩ := park_leads held' a d on hc'
    exact ⟨_, c'', held', hv'' ▸ .inquires hs, hc'', he⟩
  | ended reply => cases t <;> cases hg

end Phase

end Backoffice
