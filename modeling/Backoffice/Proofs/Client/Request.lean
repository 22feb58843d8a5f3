import Backoffice.Client.Http
import Backoffice.Except
import Backoffice.Proofs.Client.View
import Backoffice.Proofs.Task.Alone

namespace Backoffice

open Web (Request Response Body)

namespace Console

variable {method url : String} {token : Option String} {v : Json}

theorem buildRequest_json {r : Request} (h : buildRequest method url token (.json v) = some r) (v' : Json) :
    buildRequest method url token (.json v') = some { r with body := .json v' } := by
  unfold buildRequest at h ⊢
  generalize Web.Url.parse? url = u at h ⊢
  cases u with
  | none => cases h
  | some u =>
    obtain ⟨hc, hr⟩ := Option.ite_none_right_eq_some.mp h
    cases hr
    exact if_pos hc

theorem buildRequest_json_rel {v' : Json} {R : Request → Request → Prop}
    (h : ∀ r, buildRequest method url token (.json v) = some r → R r { r with body := .json v' }) :
    Option.Rel R (buildRequest method url token (.json v)) (buildRequest method url token (.json v')) := by
  cases hr : buildRequest method url token (.json v) with
  | some r =>
    rw [buildRequest_json hr]
    exact .some (h r hr)
  | none =>
    cases hr' : buildRequest method url token (.json v') with
    | none => exact .none
    | some r' => cases hr.symm.trans (buildRequest_json hr' v)

end Console

/-- A call to the backend, whether or not it can be sent. -/
structure Call where
  method : String
  url : String
  token : Option String
  body : Body

namespace Call

def request? (c : Call) : Option Request := buildRequest c.method c.url c.token c.body

theorem request?_eq_some {c : Call} {r : Request} (h : c.request? = some r) :
    ∃ u, Web.Url.parse? c.url = some u ∧ r = ⟨c.method, u, c.token.map bearer, c.body⟩ := by
  unfold request? buildRequest at h
  split at h
  · cases h
  · next u hu =>
    split at h
    · cases h
      exact ⟨u, hu, rfl⟩
    · cases h

def answer (backend : Backend) (tr : List Exchange) (c : Call) : Except ClientError Response :=
  match c.request? with
  | none => .error .invalidRequest
  | some r =>
    match backend tr r with
    | some a => .ok a
    | none => .error .transport

def exchange (backend : Backend) (tr : List Exchange) (c : Call) : List Exchange :=
  match c.request? with
  | none => tr
  | some r => ⟨r, backend tr r⟩ :: tr

def renewal (routes : Routes) (device : DeviceId) (token : String) : Call :=
  ⟨"POST", routes.refreshToken, none,
    .json (.obj [("identifier", .str device.write), ("refreshToken", .str token)])⟩

def retry (c : Call) (token : String) : Call := { c with token := some token }

/-- The tokens that a call for new ones comes to. -/
def renewed (backend : Backend) (tr : List Exchange) (c : Call) :
    Except RefreshFailure TokenPair :=
  match c.answer backend tr with
  | .error _ => .error .unanswered
  | .ok r => Console.refreshedTokens r

end Call

attribute [local irreducible] Routes.ofBase

namespace Console

variable {backend : Backend} {v : View} {tr : List Exchange}

theorem sendOnce_comes (backend : Backend) (c : Call) (v : View) (tr : List Exchange) :
    ComesTo backend (sendOnce c.method c.url c.token c.body) v tr (c.answer backend tr) v
      (c.exchange backend tr) := by
  simp only [sendOnce, Call.answer, Call.exchange, Call.request?]
  cases buildRequest c.method c.url c.token c.body with
  | none => exact .throw _ v tr
  | some r =>
    simp only
    refine ComesTo.bind (Comes.request r v tr).sure ?_
    cases backend tr r with
    | none => exact .throw _ v _
    | some a => exact .pure a v _

theorem accessToken_comes (v : View) (tr : List Exchange) :
    Comes backend accessToken v tr (v.sight.credential.map Credential.access) v tr :=
  (Comes.onProfile (Profile.credential_does v.sight) tr).bind (.done _ v tr)

theorem refresh_comes_noToken (h : v.sight.credential.bind Credential.refresh = none) :
    ComesTo backend refresh v tr (.error (.refreshFailed .noToken)) v tr := by
  refine ComesTo.bind (Comes.onProfile (Profile.credential_does v.sight) tr).sure ?_
  simp only [h]
  exact .throw _ v tr

def refreshed (v : View) (pair : TokenPair) : View :=
  ⟨v.sight.identified.writeTokens pair v.sight.remembers, v.context⟩

def refreshOutcome (v : View) : Except RefreshFailure TokenPair → Except ClientError String × View
  | .ok pair => (.ok pair.access, refreshed v pair)
  | .error why => (.error (.refreshFailed why), ⟨v.sight.identified, v.context⟩)

theorem refresh_comes {token : String} (ht : v.sight.Timely)
    (h : v.sight.credential.bind Credential.refresh = some token) :
    let c := Call.renewal v.context.routes v.sight.deviceId token
    ComesTo backend refresh v tr (refreshOutcome v (c.renewed backend tr)).1
      (refreshOutcome v (c.renewed backend tr)).2 (c.exchange backend tr) := by
  intro c
  refine ComesTo.bind (Comes.onProfile (Profile.credential_does v.sight) tr).sure ?_
  simp only [h]
  refine ComesTo.bind (ComesTo.stored (Profile.deviceId_succeeds v.sight).does tr) ?_
  refine ComesTo.bind (Comes.read Context.routes _ tr).sure ?_
  refine ComesTo.bind (Comes.sure (sendOnce_comes backend c _ tr)) ?_
  unfold Call.renewed
  cases c.answer backend tr with
  | error e => exact .throw _ _ _
  | ok r =>
    simp only
    cases refreshedTokens r with
    | error why => exact .throw _ _ _
    | ok pair =>
      have hi : v.sight.identified.Timely := by rwa [Sight.Timely, Sight.now_identified]
      have hs := Profile.replaceTokens_does pair (hi _)
      rw [Sight.remembers_identified] at hs
      exact ComesTo.bind (ComesTo.stored hs _) (.pure pair.access _ _)

theorem discardCredential_comes (v : View) (tr : List Exchange) :
    Comes backend discardCredential v tr () ⟨v.sight.clearCredential, v.context⟩ tr :=
  (Comes.onProfile (Profile.clearCredential_succeeds v.sight).does tr).bind (.done _ _ tr)

def signedOut (v : View) : View :=
  ⟨v.sight.clearCredential, { v.context with signOuts := v.context.signOuts + 1 }⟩

/-- While nobody else runs, the token that was refused is the stored one, and it is refreshed. -/
theorem freshToken_eq_renew (v : View) (tr : List Exchange) {r : Except ClientError String}
    {v' : View} {tr' : List Exchange} (h : ComesTo backend freshToken.renew v tr r v' tr') :
    ComesTo backend (freshToken (v.sight.credential.map Credential.access)) v tr r v' tr' := by
  refine ComesTo.bind (accessToken_comes v tr).sure ?_
  cases v.sight.credential with
  | none => exact h
  | some c => simpa using h

theorem renew_comes_ok {v' : View} {tr' : List Exchange} {t : String}
    (h : ComesTo backend refresh v tr (.ok t) v' tr') :
    ComesTo backend freshToken.renew v tr (.ok t) v' tr' :=
  ComesTo.bind (Comes.sure h) (.pure t v' tr')

theorem renew_comes_error {v' : View} {tr' : List Exchange} {e : ClientError}
    (h : ComesTo backend refresh v tr (.error e) v' tr') :
    ComesTo backend freshToken.renew v tr (.error e) (signedOut v') tr' :=
  ComesTo.bind (Comes.sure h) <| ComesTo.bind (discardCredential_comes v' tr').sure <|
    ComesTo.bind (Comes.modify _ _ tr').sure (.throw e _ tr')

theorem firstGiven_ne {texts : List (Option String)} {s : String}
    (h : AuthResponse.firstGiven texts = some s) : s ≠ "" := by
  have he := List.find?_some h
  intro hq
  subst hq
  simp at he

theorem tokens_ne {a : AuthResponse} {pair : TokenPair} (h : a.tokens? = some pair) :
    pair.access ≠ "" ∧ pair.refresh ≠ some "" := by
  simp only [AuthResponse.tokens?] at h
  split at h
  · next access ha =>
    cases h
    exact ⟨firstGiven_ne ha, fun hr ↦ firstGiven_ne hr rfl⟩
  · cases h

theorem refreshedTokens_ne {r : Response} {pair : TokenPair} (h : refreshedTokens r = .ok pair) :
    pair.access ≠ "" ∧ pair.refresh ≠ some "" := by
  simp only [refreshedTokens] at h
  split at h
  · cases h
  · split at h
    · cases h
    · split at h
      · next hp =>
        cases h
        exact tokens_ne hp
      · cases h

/-- A request whose first call was refused goes on as the token it retries with is found or not. -/
theorem request_comes_refused {method url : String} {body : Body} {r : Response} {v' : View}
    {tr' : List Exchange} {fresh : Except ClientError String}
    (ha : Call.answer backend tr ⟨method, url, v.sight.credential.map Credential.access, body⟩ =
      .ok r) (hr : r.status = unauthorized)
    (hf : ComesTo backend (freshToken (v.sight.credential.map Credential.access)) v
      (Call.exchange backend tr ⟨method, url, v.sight.credential.map Credential.access, body⟩)
      fresh v' tr') :
    ComesTo backend (request method url body) v tr
      (fresh.bind fun t ↦ Call.answer backend tr' ⟨method, url, some t, body⟩) v'
      (match fresh with
        | .ok t => Call.exchange backend tr' ⟨method, url, some t, body⟩
        | .error _ => tr') := by
  have h := sendOnce_comes backend
    ⟨method, url, v.sight.credential.map Credential.access, body⟩ v tr
  rw [ha] at h
  refine ComesTo.bind (accessToken_comes v tr).sure (ComesTo.bind h ?_)
  simp only [hr, ne_eq, not_true_eq_false, if_false]
  refine ComesTo.bind (Comes.acquire _ v _).sure (ComesTo.bind (Comes.sure hf) ?_)
  refine ComesTo.bind (Comes.release _ v' tr').sure ?_
  cases fresh with
  | error e => exact .throw e v' tr'
  | ok t => exact sendOnce_comes backend ⟨method, url, some t, body⟩ v' tr'

theorem freshToken_comes (backend : Backend) (ht : v.sight.Timely) (tr : List Exchange) :
    ∃ fresh v' tr',
      ComesTo backend (freshToken (v.sight.credential.map Credential.access)) v tr fresh v' tr' := by
  cases htoken : v.sight.credential.bind Credential.refresh with
  | none => exact ⟨_, _, _, freshToken_eq_renew v tr (renew_comes_error (refresh_comes_noToken htoken))⟩
  | some token =>
    have h : ComesTo backend refresh v tr _ _ _ := refresh_comes ht htoken
    cases hp : (Call.renewal v.context.routes v.sight.deviceId token).renewed backend tr with
    | error why =>
      rw [hp] at h
      exact ⟨_, _, _, freshToken_eq_renew v tr (renew_comes_error h)⟩
    | ok pair =>
      rw [hp] at h
      exact ⟨_, _, _, freshToken_eq_renew v tr (renew_comes_ok h)⟩

theorem request_comes (backend : Backend) (v : View) (tr : List Exchange) (ht : v.sight.Timely)
    (method url : String) (body : Body) :
    ∃ result v' tr', ComesTo backend (request method url body) v tr result v' tr' := by
  let first : Call := ⟨method, url, v.sight.credential.map Credential.access, body⟩
  have hf := sendOnce_comes backend first v tr
  have hc : Comes backend accessToken v tr _ v tr := accessToken_comes v tr
  cases ha : first.answer backend tr with
  | error e =>
    rw [ha] at hf
    exact ⟨_, _, _, ComesTo.bind hc.sure (.bind_error hf)⟩
  | ok r =>
    rw [ha] at hf
    -- Any other answer is final; a refusal sends the request on to look for another token.
    by_cases hr : r.status = unauthorized
    · obtain ⟨fresh, v', tr', hfresh⟩ := freshToken_comes backend ht (first.exchange backend tr)
      exact ⟨_, _, _, request_comes_refused ha hr hfresh⟩
    · refine ⟨.ok r, v, first.exchange backend tr, ComesTo.bind hc.sure (ComesTo.bind hf ?_)⟩
      simp only [hr, ne_eq, not_false_eq_true, if_true]
      exact .pure r v _

variable {held : List Gate}

theorem read_balanced {α : Type} (f : Context → α) : (read f).Balanced held := ⟨fun _ ↦ rfl⟩

theorem modify_balanced (f : Context → Context) : (modify f).Balanced held := ⟨rfl⟩

theorem sendOnce_balanced (method url : String) (token : Option String) (body : Body) :
    (sendOnce method url token body).run.Balanced held := by
  unfold sendOnce
  cases buildRequest method url token body with
  | none => exact .done _
  | some r =>
    apply (Task.Balanced.request r).lift.except_bind
    intro r
    cases r with
    | none => exact .done _
    | some a => exact .done _

theorem stored_balanced {α : Type} (act : ProfileM α) : (stored act).run.Balanced held := by
  apply (Task.Balanced.state _).lift.except_bind
  intro r
  cases r with
  | error e => exact .done _
  | ok a => exact .done _

theorem accessToken_balanced : accessToken.Balanced held :=
  (Task.Balanced.state _).bind fun _ ↦ .done _

theorem discardCredential_balanced : discardCredential.Balanced held :=
  (Task.Balanced.state _).bind fun _ ↦ .done _

theorem refresh_balanced : refresh.run.Balanced held := by
  refine (Task.Balanced.state _).lift.except_bind fun c ↦ ?_
  split
  · exact .done _
  · refine (stored_balanced _).except_bind fun device ↦ ?_
    refine (read_balanced _).lift.except_bind fun routes ↦ ?_
    refine (sendOnce_balanced _ _ _ _).lift.except_bind fun answer ↦ ?_
    split
    · exact .done _
    · split
      · exact .done _
      · exact (stored_balanced _).except_bind fun _ ↦ .done _

theorem renew_balanced : freshToken.renew.run.Balanced held := by
  refine refresh_balanced.lift.except_bind fun r ↦ ?_
  split
  · exact .done _
  · refine discardCredential_balanced.lift.except_bind fun _ ↦ ?_
    exact (modify_balanced _).lift.except_bind fun _ ↦ .done _

theorem freshToken_balanced (refused : Option String) : (freshToken refused).run.Balanced held := by
  refine accessToken_balanced.lift.except_bind fun current ↦ ?_
  split
  · split
    · exact .done _
    · exact renew_balanced
  · exact renew_balanced

theorem request_balanced (method url : String) (body : Body) :
    (request method url body).run.Balanced [] := by
  refine accessToken_balanced.lift.except_bind fun token ↦ ?_
  refine (sendOnce_balanced _ _ _ _).except_bind fun first ↦ ?_
  split
  · exact .done _
  · refine Task.Balanced.locked (by decide) (freshToken_balanced token) fun fresh ↦ ?_
    cases fresh with
    | error e => exact .done _
    | ok t => exact sendOnce_balanced _ _ _ _

end Console

end Backoffice
