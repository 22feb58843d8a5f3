import Backoffice.Proofs.Client.Request
import Backoffice.Proofs.Task.Interleaving

namespace Backoffice

open Web (Request Response Body Outcome)

attribute [local irreducible] Routes.ofBase

namespace Console

variable {α β : Type}

abbrev Sequel (α : Type) := Share Gate Console → Strand Gate Console α × Share Gate Console

structure Leads (t : ConsoleM α) (v : View) (held : List Gate) (k : Sequel α) (v' : View)
    (held' : List Gate) : Prop where
  park : ∀ c : Console, c.Reliable → c.view = v →
    ∃ c', t.park ⟨c, held⟩ = k ⟨c', held'⟩ ∧ c'.Reliable ∧ c'.view = v'

variable {v v' v'' : View} {held held' held'' : List Gate}

namespace Leads

theorem refl (t : ConsoleM α) (v : View) (held : List Gate) : Leads t v held t.park v held :=
  ⟨fun c hc hv ↦ ⟨c, rfl, hc, hv⟩⟩

theorem trans {t u : ConsoleM α} {k : Sequel α} (h : Leads t v held u.park v' held')
    (hu : Leads u v' held' k v'' held'') : Leads t v held k v'' held'' where
  park c hc hv := by
    obtain ⟨c', he, hc', hv'⟩ := h.park c hc hv
    obtain ⟨c'', he', hc'', hv''⟩ := hu.park c' hc' hv'
    exact ⟨c'', he.trans he', hc'', hv''⟩

theorem onProfile {act : StateM Profile α} {a : α} {s : Sight} (h : Profile.Does act v.sight a s)
    (f : α → ConsoleM β) :
    Leads ((onProfile act).bind f) v held (f a).park ⟨s, v.context⟩ held where
  park c hc hv := by
    subst hv
    obtain ⟨p, he, hp, hs⟩ := h c.profile hc rfl
    refine ⟨⟨p, c.context⟩, ?_, hp, ?_⟩
    · rw [Task.park_bind]
      simp only [Console.onProfile, Task.state, Task.park, he]
      rfl
    · subst hs
      rfl

theorem read (f : Context → α) (g : α → ConsoleM β) :
    Leads ((read f).bind g) v held (g (f v.context)).park v held where
  park c hc hv := by
    subst hv
    exact ⟨c, rfl, hc, rfl⟩

theorem modify (f : Context → Context) (g : Unit → ConsoleM β) :
    Leads ((modify f).bind g) v held (g ()).park ⟨v.sight, f v.context⟩ held where
  park c hc hv := by
    subst hv
    exact ⟨_, rfl, hc, rfl⟩

theorem unlock (g : Gate) (next : ConsoleM α) :
    Leads (.unlock g next) v held next.park v (held.erase g) :=
  ⟨fun c hc hv ↦ ⟨c, rfl, hc, hv⟩⟩

end Leads

theorem sure_bind_then (t : ConsoleM α) (f : α → Action β) {ρ : Type}
    (k : Except ClientError β → ConsoleM ρ) :
    (sure t >>= f).run.bind k = t.bind fun a ↦ (f a).run.bind k := by
  change ((t.bind fun a ↦ .done (Except.ok a)).bind _).bind k = _
  simp only [Task.bind_assoc]
  rfl

theorem sure_bind_then_eq {t : ConsoleM α} {f : α → Action β} {ρ : Type}
    {k : Except ClientError β → ConsoleM ρ} {g : α → ConsoleM ρ} (h : ∀ a, (f a).run.bind k = g a) :
    (sure t >>= f).run.bind k = t.bind g :=
  (sure_bind_then t f k).trans (congrArg t.bind (funext h))

theorem bind_then (t : Action α) (f : α → Action β) {ρ : Type}
    (k : Except ClientError β → ConsoleM ρ) :
    (t >>= f).run.bind k = t.run.bind fun
      | .ok a => (f a).run.bind k
      | .error e => k (.error e) := by
  change (t.run.bind (ExceptT.bindCont f)).bind k = _
  rw [Task.bind_assoc]
  congr 1
  funext r
  cases r <;> rfl

theorem bind_then_eq {t : Action α} {f : α → Action β} {ρ : Type}
    {k : Except ClientError β → ConsoleM ρ} {g : Except ClientError α → ConsoleM ρ}
    (h : ∀ a, (f a).run.bind k = g (.ok a)) (he : ∀ e, k (.error e) = g (.error e)) :
    (t >>= f).run.bind k = t.run.bind g := by
  rw [bind_then]
  congr 1
  funext r
  cases r with
  | ok a => exact h a
  | error e => exact he e

theorem stored_then (act : ProfileM α) {ρ : Type} (k : Except ClientError α → ConsoleM ρ) :
    (stored act).run.bind k = (onProfile act.run).bind fun
      | .ok a => k (.ok a)
      | .error e => k (.error (.storage e)) := by
  refine sure_bind_then_eq fun r ↦ ?_
  cases r <;> rfl

theorem Leads.stored {act : ProfileM α} {a : α} {s : Sight}
    (h : Profile.Does act.run v.sight (.ok a) s) {ρ : Type} (k : Except ClientError α → ConsoleM ρ) :
    Leads ((stored act).run.bind k) v held (k (.ok a)).park ⟨s, v.context⟩ held := by
  rw [stored_then]
  exact .onProfile h _

theorem discardCredential_leads (f : Unit → ConsoleM β) :
    Leads (discardCredential.bind f) v held (f ()).park ⟨v.sight.clearCredential, v.context⟩ held := by
  simp only [discardCredential, Task.bind_eq, Task.bind_assoc]
  exact .onProfile (Profile.clearCredential_succeeds v.sight).does _

theorem accessToken_leads (f : Option String → ConsoleM β) :
    Leads (accessToken.bind f) v held (f (v.sight.credential.map Credential.access)).park v held := by
  simp only [accessToken, Task.bind_eq, Task.bind_assoc]
  exact .onProfile (Profile.credential_does v.sight) _

end Console

open Console

def received : Outcome → Except ClientError Response
  | some answer => .ok answer
  | none => .error .transport

/-- The tokens that a call for new ones comes to by its outcome. -/
def receivedTokens : Outcome → Except RefreshFailure TokenPair
  | some answer => refreshedTokens answer
  | none => .error .unanswered

/-- A request, whatever its token, and what follows when it is over. -/
structure Inquiry (ρ : Type) where
  call : Call
  andThen : Except ClientError Response → ConsoleM ρ

/-- Where a request waits: for its first answer, for the lock around refreshes, for new tokens while
it holds the lock, or for its second answer. -/
inductive Stage where
  | asked (token : Option String) (r : Request)
  | queued (refused : Option String)
  | renewing (refused : Option String) (r : Request)
  | retrying (r : Request)

inductive Onward where
  | waits (s : Stage)
  | ended (x : Except ClientError Response)

def Onward.calling (c : Call) (s : Request → Stage) : Onward :=
  match c.request? with
  | some r => .waits (s r)
  | none => .ended (.error .invalidRequest)

def Sight.Stale (refused : Option String) (s : Sight) : Prop :=
  ∀ c, s.credential = some c → some c.access = refused

/-- The ways in which a request goes on that makes `call` with one token or another. What it does
depends on what is stored when it goes on, and not on what was when it came to wait. -/
inductive Stage.Goes (call : Call) :
    Stage → View → List Gate → Turn → Onward → View → List Gate → Prop
  | answered {token : Option String} {r : Request} {o : Outcome} {v : View} {held : List Gate}
      (h : ∀ a, o = some a → a.status ≠ unauthorized) :
      Goes call (.asked token r) v held (.answer o) (.ended (received o)) v held
  | refused {token : Option String} {r : Request} {a : Response} {v : View} {held : List Gate}
      (h : a.status = unauthorized) :
      Goes call (.asked token r) v held (.answer (some a)) (.waits (.queued token)) v held
  | replaced {refused : Option String} {c : Credential} {v : View} {held : List Gate}
      (hg : Gate.refresh ∉ held) (hc : v.sight.credential = some c) (hn : some c.access ≠ refused) :
      Goes call (.queued refused) v held .grant (.calling (call.retry c.access) .retrying) v held
  | unrefreshable {refused : Option String} {v : View} {held : List Gate}
      (hg : Gate.refresh ∉ held) (hs : v.sight.Stale refused)
      (ht : v.sight.credential.bind Credential.refresh = none) :
      Goes call (.queued refused) v held .grant (.ended (.error (.refreshFailed .noToken)))
        (signedOut v) held
  | unsent {refused : Option String} {token : String} {v : View} {held : List Gate}
      (hg : Gate.refresh ∉ held) (hs : v.sight.Stale refused)
      (ht : v.sight.credential.bind Credential.refresh = some token)
      (hr : (Call.renewal v.context.routes v.sight.deviceId token).request? = none) :
      Goes call (.queued refused) v held .grant (.ended (.error (.refreshFailed .unanswered)))
        (signedOut ⟨v.sight.identified, v.context⟩) held
  | renewing {refused : Option String} {token : String} {r : Request} {v : View} {held : List Gate}
      (hg : Gate.refresh ∉ held) (hs : v.sight.Stale refused)
      (ht : v.sight.credential.bind Credential.refresh = some token)
      (hr : (Call.renewal v.context.routes v.sight.deviceId token).request? = some r) :
      Goes call (.queued refused) v held .grant (.waits (.renewing refused r))
        ⟨v.sight.identified, v.context⟩ (.refresh :: held)
  | unrenewed {refused : Option String} {r : Request} {o : Outcome} {why : RefreshFailure}
      {v : View} {held : List Gate} (hp : receivedTokens o = .error why) :
      Goes call (.renewing refused r) v held (.answer o) (.ended (.error (.refreshFailed why)))
        (signedOut v) (held.erase .refresh)
  | renewed {refused : Option String} {r : Request} {o : Outcome} {pair : TokenPair} {v : View}
      {held : List Gate} (hp : receivedTokens o = .ok pair) :
      Goes call (.renewing refused r) v held (.answer o) (.calling (call.retry pair.access) .retrying)
        ⟨v.sight.writeTokens pair v.sight.remembers, v.context⟩ (held.erase .refresh)
  | retried {r : Request} {o : Outcome} {v : View} {held : List Gate} :
      Goes call (.retrying r) v held (.answer o) (.ended (received o)) v held

namespace Inquiry

variable {ρ : Type} (q : Inquiry ρ)

def task : ConsoleM ρ := (request q.call.method q.call.url q.call.body).run.bind q.andThen

def retried : Except ClientError String → ConsoleM ρ
  | .ok t => (sendOnce q.call.method q.call.url (some t) q.call.body).run.bind q.andThen
  | .error e => q.andThen (.error e)

def released (fresh : Except ClientError String) : ConsoleM ρ := .unlock .refresh (q.retried fresh)

def renewed : Except ClientError String → ConsoleM ρ
  | .ok t => q.released (.ok t)
  | .error e =>
    discardCredential.bind fun _ ↦
      (modify fun c ↦ { c with signOuts := c.signOuts + 1 }).bind fun _ ↦ q.released (.error e)

def exchanged : Except ClientError Response → ConsoleM ρ
  | .error _ => q.renewed (.error (.refreshFailed .unanswered))
  | .ok answer =>
    match refreshedTokens answer with
    | .error why => q.renewed (.error (.refreshFailed why))
    | .ok pair => (stored (Profile.replaceTokens pair)).run.bind fun
      | .ok () => q.renewed (.ok pair.access)
      | .error e => q.renewed (.error e)

def regained (refused : Option String) : ConsoleM ρ := (freshToken refused).run.bind q.released

def answered (token : Option String) : Except ClientError Response → ConsoleM ρ
  | .error e => q.andThen (.error e)
  | .ok first =>
    if first.status ≠ unauthorized then q.andThen (.ok first)
    else .lock .refresh (q.regained token)

def strand : Stage → Strand Gate Console ρ
  | .asked token r => .sent r fun o ↦ q.answered token (received o)
  | .queued refused => .queued .refresh (q.regained refused)
  | .renewing _ r => .sent r fun o ↦ q.exchanged (received o)
  | .retrying r => .sent r fun o ↦ q.andThen (received o)

def park : Onward → Sequel ρ
  | .waits s => fun share ↦ (q.strand s, share)
  | .ended x => (q.andThen x).park

theorem task_eq : q.task = accessToken.bind fun token ↦
    (sendOnce q.call.method q.call.url token q.call.body).run.bind (q.answered token) := by
  refine sure_bind_then_eq fun token ↦ bind_then_eq (fun first ↦ ?_) fun _ ↦ rfl
  simp only [answered]
  by_cases h : first.status = unauthorized
  · simp only [h, ne_eq, not_true_eq_false, if_false]
    refine (sure_bind_then _ _ _).trans (congrArg (Task.lock Gate.refresh) ?_)
    rw [regained]
    refine sure_bind_then_eq fun fresh ↦ ?_
    refine (sure_bind_then _ _ _).trans (congrArg (Task.unlock Gate.refresh) ?_)
    cases fresh <;> rfl
  · simp only [h, ne_eq, not_false_eq_true, if_true]
    rfl

theorem renew_eq : freshToken.renew.run.bind q.released = refresh.run.bind q.renewed := by
  refine sure_bind_then_eq fun r ↦ ?_
  cases r with
  | ok t => rfl
  | error e =>
    refine (sure_bind_then _ _ _).trans ?_
    simp only [renewed]
    congr 1

def refreshWith (credential : Option Credential) : ConsoleM ρ :=
  match credential.bind Credential.refresh with
  | none => q.renewed (.error (.refreshFailed .noToken))
  | some token => (stored Profile.deviceId).run.bind fun
    | .error e => q.renewed (.error e)
    | .ok device => (Console.read Context.routes).bind fun routes ↦
      let call := Call.renewal routes device token
      (sendOnce call.method call.url call.token call.body).run.bind q.exchanged

theorem refresh_eq : refresh.run.bind q.renewed =
    (onProfile Profile.credential).bind q.refreshWith := by
  refine sure_bind_then_eq fun credential ↦ ?_
  simp only [refreshWith]
  cases credential.bind Credential.refresh with
  | none => rfl
  | some token =>
    refine bind_then_eq (fun device ↦ ?_) fun _ ↦ rfl
    refine sure_bind_then_eq fun routes ↦ sure_bind_then_eq fun x ↦ ?_
    cases x with
    | error e => rfl
    | ok answer =>
      simp only [exchanged]
      cases refreshedTokens answer with
      | error why => rfl
      | ok pair => exact bind_then_eq (fun _ ↦ rfl) fun _ ↦ rfl

theorem regained_eq (refused : Option String) : q.regained refused = accessToken.bind fun
    | some t => if some t ≠ refused then q.released (.ok t) else refresh.run.bind q.renewed
    | none => refresh.run.bind q.renewed := by
  refine sure_bind_then_eq fun current ↦ ?_
  cases current with
  | none => exact q.renew_eq
  | some t =>
    by_cases h : some t = refused
    · simp only [h, ne_eq, not_true_eq_false, if_false]
      exact q.renew_eq
    · simp only [h, ne_eq, not_false_eq_true, if_true]
      rfl

theorem sendOnce_park {ρ : Type} (c : Call) (k : Except ClientError Response → ConsoleM ρ) :
    ((sendOnce c.method c.url c.token c.body).run.bind k).park = fun share ↦
      match c.request? with
      | some r => (.sent r fun o ↦ k (received o), share)
      | none => (k (.error .invalidRequest)).park share := by
  funext share
  simp only [sendOnce, Call.request?]
  cases buildRequest c.method c.url c.token c.body with
  | none => rfl
  | some r =>
    simp only
    have h : (fun o ↦ k (received o)) = fun o ↦ ((match o with
        | some answer => pure answer
        | none => throw .transport : Action Response).run.bind k) := by
      funext o
      cases o <;> rfl
    rw [h]
    exact congrArg (Task.park · share) (sure_bind_then _ _ _)

theorem calling_park (token : Option String) (s : Request → Stage)
    (k : Except ClientError Response → ConsoleM ρ)
    (hs : ∀ r, q.strand (s r) = .sent r fun o ↦ k (received o))
    (hk : k (.error .invalidRequest) = q.andThen (.error .invalidRequest)) :
    ((sendOnce q.call.method q.call.url token q.call.body).run.bind k).park =
      q.park (.calling { q.call with token } s) := by
  refine (sendOnce_park { q.call with token } k).trans ?_
  funext share
  simp only [Onward.calling]
  cases Call.request? { q.call with token } with
  | none => simp only [park, hk]
  | some r => simp only [park, hs]

variable {q} {v v' : View} {held held' : List Gate} {k : Sequel ρ}

theorem released_leads (t : String) :
    Leads (q.released (.ok t)) v held (q.park (.calling (q.call.retry t) .retrying)) v
      (held.erase .refresh) := by
  have h := q.calling_park (some t) .retrying q.andThen (fun _ ↦ rfl) rfl
  exact ⟨fun c hc hv ↦ ⟨c, congrFun h _, hc, hv⟩⟩

theorem renewed_error_leads (e : ClientError) :
    Leads (q.renewed (.error e)) v held (q.park (.ended (.error e))) (signedOut v)
      (held.erase .refresh) :=
  (discardCredential_leads _).trans ((Leads.modify _ _).trans (.unlock _ _))

theorem exchanged_leads (held : List Gate) {o : Outcome} (ht : v.sight.Timely) :
    match receivedTokens o with
    | .error why => Leads (q.exchanged (received o)) v held
        (q.park (.ended (.error (.refreshFailed why)))) (signedOut v) (held.erase .refresh)
    | .ok pair => Leads (q.exchanged (received o)) v held
        (q.park (.calling (q.call.retry pair.access) .retrying))
        ⟨v.sight.writeTokens pair v.sight.remembers, v.context⟩ (held.erase .refresh) := by
  cases o with
  | none => exact renewed_error_leads _
  | some answer =>
    simp only [receivedTokens, received, exchanged]
    cases refreshedTokens answer with
    | error why => exact renewed_error_leads _
    | ok pair => exact (Leads.stored (Profile.replaceTokens_does pair (ht _)) _).trans (released_leads _)

theorem refresh_leads {refused : Option String} (hg : Gate.refresh ∉ held)
    (hs : v.sight.Stale refused) :
    ∃ on v' held', Stage.Goes q.call (.queued refused) v held .grant on v' held' ∧
      Leads (refresh.run.bind q.renewed) v (.refresh :: held) (q.park on) v' held' := by
  have he : (Gate.refresh :: held).erase .refresh = held := List.erase_cons_head _ _
  rw [refresh_eq]
  have hc : Leads _ v (.refresh :: held) _ _ _ :=
    .onProfile (Profile.credential_does v.sight) q.refreshWith
  simp only [refreshWith] at hc
  cases ht : v.sight.credential.bind Credential.refresh with
  | none =>
    have hr : Leads _ v (.refresh :: held) _ _ _ :=
      renewed_error_leads (q := q) (.refreshFailed .noToken)
    rw [he] at hr
    rw [ht] at hc
    exact ⟨_, _, _, .unrefreshable hg hs ht, hc.trans hr⟩
  | some token =>
    rw [ht] at hc
    have hd := hc.trans ((Leads.stored (Profile.deviceId_succeeds v.sight).does _).trans
      (.read Context.routes _))
    let call := Call.renewal v.context.routes v.sight.deviceId token
    have hp := sendOnce_park call q.exchanged
    cases hr : call.request? with
    | none =>
      have hw : Leads _ ⟨v.sight.identified, v.context⟩ (.refresh :: held) _ _ _ :=
        renewed_error_leads (q := q) (.refreshFailed .unanswered)
      rw [he] at hw
      rw [hr] at hp
      refine ⟨_, _, _, .unsent hg hs ht hr, hd.trans ?_⟩
      exact ⟨fun c hc hv ↦ hp ▸ hw.park c hc hv⟩
    | some r =>
      rw [hr] at hp
      refine ⟨_, _, _, .renewing hg hs ht hr, hd.trans ?_⟩
      exact ⟨fun c hc hv ↦ ⟨c, congrFun hp _, hc, hv⟩⟩

theorem regained_leads {refused : Option String} (hg : Gate.refresh ∉ held) :
    ∃ on v' held', Stage.Goes q.call (.queued refused) v held .grant on v' held' ∧
      Leads (q.regained refused) v (.refresh :: held) (q.park on) v' held' := by
  have he : (Gate.refresh :: held).erase .refresh = held := List.erase_cons_head _ _
  rw [regained_eq]
  -- With the lock in hand the token is read anew: another task may have renewed it meanwhile.
  have ha : Leads _ v (.refresh :: held) _ _ _ := accessToken_leads fun
    | some t => if some t ≠ refused then q.released (.ok t) else refresh.run.bind q.renewed
    | none => refresh.run.bind q.renewed
  cases hc : v.sight.credential with
  | none =>
    rw [hc] at ha
    obtain ⟨on, v', held', hgo, hl⟩ := refresh_leads hg
      (show v.sight.Stale refused from fun c h ↦ by cases hc.symm.trans h)
    exact ⟨on, v', held', hgo, ha.trans hl⟩
  | some c =>
    rw [hc] at ha
    by_cases hn : some c.access = refused
    · simp only [Option.map_some, if_neg (not_not_intro hn)] at ha
      obtain ⟨on, v', held', hgo, hl⟩ := refresh_leads hg
        (show v.sight.Stale refused from fun d h ↦ by cases hc.symm.trans h; exact hn)
      exact ⟨on, v', held', hgo, ha.trans hl⟩
    · simp only [Option.map_some, if_pos hn] at ha
      have hr : Leads _ v (.refresh :: held) _ _ _ := released_leads (q := q) c.access
      rw [he] at hr
      exact ⟨_, _, _, .replaced hg hc hn, ha.trans hr⟩

theorem first_leads (v : View) (held : List Gate) :
    let token := v.sight.credential.map Credential.access
    Leads q.task v held (q.park (.calling { q.call with token } (.asked token))) v held := by
  intro token
  rw [task_eq, ← q.calling_park token (.asked token) (q.answered token) (fun _ ↦ rfl) rfl]
  exact accessToken_leads _

theorem goes_of_leads {s : Stage} {t : Turn} {call : Call} {on : Onward} {c : Console}
    {held' : List Gate} {u : ConsoleM ρ} {g : List Gate} (hc : c.Reliable)
    (hgo : Stage.Goes call s c.view held t on v' held') (hl : Leads u c.view g (q.park on) v' held') :
    ∃ on c' held', Stage.Goes call s c.view held t on c'.view held' ∧ c'.Reliable ∧
      u.park ⟨c, g⟩ = q.park on ⟨c', held'⟩ := by
  obtain ⟨c', he, hc', rfl⟩ := hl.park c hc rfl
  exact ⟨on, c', held', hgo, hc', he⟩

/-- On a store that refuses nothing, whatever a request does when it takes its turn is one of the ways in
which a request goes on. -/
theorem go_goes {s : Stage} {t : Turn} {c : Console} {p : Strand Gate Console ρ × Share Gate Console}
    (hc : c.Reliable) (ht : c.view.sight.Timely) (hg : (q.strand s).go t ⟨c, held⟩ = some p) :
    ∃ on c' held', Stage.Goes q.call s c.view held t on c'.view held' ∧ c'.Reliable ∧
      p = q.park on ⟨c', held'⟩ := by
  cases s with
  | asked token r =>
    cases t <;> simp only [strand, Strand.go, Option.some.injEq, reduceCtorEq] at hg
    next o =>
      subst hg
      cases o with
      | none => exact ⟨_, c, held, .answered nofun, hc, rfl⟩
      | some a =>
        simp only [received, answered]
        by_cases h : a.status = unauthorized
        · rw [if_neg (not_not_intro h)]
          exact ⟨_, c, held, .refused h, hc, rfl⟩
        · rw [if_pos h]
          refine ⟨_, c, held, .answered fun b hb ↦ ?_, hc, rfl⟩
          cases hb
          exact h
  | queued refused =>
    cases t <;> simp only [strand, Strand.go, reduceCtorEq] at hg
    split at hg
    · cases hg
    · next h =>
      cases hg
      -- The lock was free. What is stored now decides, not what was when the request was refused.
      obtain ⟨on, v', held', hgo, hl⟩ := regained_leads (q := q) (v := c.view) h
      exact goes_of_leads hc hgo hl
  | renewing refused r =>
    cases t <;> simp only [strand, Strand.go, Option.some.injEq, reduceCtorEq] at hg
    next o =>
      subst hg
      have hl := exchanged_leads held (q := q) (o := o) ht
      cases hp : receivedTokens o with
      | error why =>
        rw [hp] at hl
        exact goes_of_leads hc (.unrenewed hp) hl
      | ok pair =>
        rw [hp] at hl
        exact goes_of_leads hc (.renewed hp) hl
  | retrying r =>
    cases t <;> simp only [strand, Strand.go, Option.some.injEq, reduceCtorEq] at hg
    subst hg
    exact ⟨_, c, held, .retried, hc, rfl⟩

end Inquiry

end Backoffice
