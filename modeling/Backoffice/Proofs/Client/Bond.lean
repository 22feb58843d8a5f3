import Backoffice.Proofs.Client.SignIn
import Backoffice.Proofs.Storage.Kinship

namespace Backoffice

open Web (Request Response Body)

/-- A kinship of profiles, with what clients over them send: `known` says which configurations they have,
`allows` which calls they are asked for, and `sends` which requests are alike. -/
structure Bond where
  kin : Kinship
  known : Config → Prop
  allows : String → String → Body → Prop
  sends : Request → Request → Prop

variable {α α' β β' : Type}

namespace Bond

variable (B : Bond)

structure Consoles (c c' : Console) : Prop where
  profiles : B.kin.Profiles c.profile c'.profile
  context : c.context = c'.context
  known : B.known c.context.config

def consoles : Likeness Console := ⟨B.Consoles, B.sends⟩

def desks : Likeness Desk where
  states := fun d d' ↦ B.consoles.states d.console d'.console ∧ d.mode = d'.mode ∧ d.form = d'.form
  sends := B.sends

/-- Workspaces over hosts that are kin, whose session stores are so too; all else is the same. -/
structure Workspaces (w w' : Workspace) : Prop where
  hosts : B.kin.Hosts w.host w'.host
  cookies : ∀ n, (w.sessionStores n).cookies.Kin B.kin.values (w'.sessionStores n).cookies
  session : ∀ n, (w.sessionStores n).session = (w'.sessionStores n).session
  known : ∀ n, B.known (w.clients n).context.config
  only_profiles : w' = { w with host := w'.host, sessionStores := w'.sessionStores }

def workspaces : Likeness Workspace := ⟨B.Workspaces, B.sends⟩

/-- A bond that holds of all that clients send. -/
structure Lawful : Prop where
  kin : B.kin.Lawful
  plain : Console.Plain B.allows
  requests : ∀ {method url token body r}, B.allows method url body →
    buildRequest method url token body = some r → B.sends r r
  logins : ∀ {payload : LoginPayload} url, B.kin.devices payload.device.deviceId →
    B.allows "POST" url (.json payload.toJson)
  renewals : ∀ {config device token token' r r'}, B.known config →
    B.kin.values Profile.refreshCookie token token' → B.kin.devices device →
    (Call.renewal (.ofBase config.apiUrl) device token).request? = some r →
    (Call.renewal (.ofBase config.apiUrl) device token').request? = some r' → B.sends r r'

end Bond

variable {B : Bond} {Q : α → α' → Prop} {Q' : β → β' → Prop}

namespace Console

theorem onProfile_matches {act : StateM Profile α} {act' : StateM Profile α'} (h : B.kin.Agrees Q act act') :
    (onProfile act).Matches B.consoles Q (onProfile act') := by
  refine .state fun c c' hc ↦ ?_
  obtain ⟨hq, hp⟩ := h _ _ hc.profiles
  exact ⟨hq, hp, hc.context, hc.known⟩

theorem stored_bind_matches {act : ProfileM α} {act' : ProfileM α'} {f : α → Action β} {g : α' → Action β'}
    (h : B.kin.Agrees (Fares Q) act.run act'.run)
    (hf : ∀ a a', Q a a' → (f a).run.Matches B.consoles (Fares Q') (g a').run) :
    (stored act >>= f).run.Matches B.consoles (Fares Q') (stored act' >>= g).run := by
  refine Task.Matches.except_bind ((onProfile_matches h).lift_bind fun r r' hr ↦ ?_) hf
  cases hr with
  | error e => exact .done (.error _)
  | ok ha => exact .done (.ok ha)

theorem stored_next_matches {act : ProfileM α} {f : α → Action β} {g : α → Action β'}
    (h : B.kin.Agrees (Fares Eq) act.run act.run)
    (hf : ∀ a, (f a).run.Matches B.consoles (Fares Q') (g a).run) :
    (stored act >>= f).run.Matches B.consoles (Fares Q') (stored act >>= g).run := by
  refine stored_bind_matches h fun a a' ha ↦ ?_
  cases ha
  exact hf a

theorem read_matches (f : Context → α) : (read f).Matches B.consoles Eq (read f) :=
  .look fun _ _ hc ↦ .done (congrArg f hc.context)

theorem routes_matches : (read Context.routes).Matches B.consoles
    (fun r r' ↦ r = r' ∧ ∃ config, B.known config ∧ r = .ofBase config.apiUrl) (read Context.routes) :=
  .look fun c _ hc ↦ .done ⟨congrArg Context.routes hc.context, c.context.config, hc.known, rfl⟩

theorem modify_matches {f : Context → Context} (hf : ∀ c, (f c).config = c.config) :
    (modify f).Matches B.consoles Eq (modify f) := by
  refine .update (fun c c' hc ↦ ⟨hc.profiles, congrArg f hc.context, ?_⟩) (.done rfl)
  rw [hf]
  exact hc.known

theorem sendOnce_matches {L : Likeness Console} {method url : String} {token : Option String} {body body' : Body}
    (h : Option.Rel L.sends (buildRequest method url token body) (buildRequest method url token body')) :
    (sendOnce method url token body).run.Matches L Eq (sendOnce method url token body').run := by
  unfold sendOnce
  generalize buildRequest method url token body = r at h ⊢
  generalize buildRequest method url token body' = r' at h ⊢
  cases h with
  | none => exact .done rfl
  | some h =>
    refine Task.Matches.mono (Q := Fares Eq) ((Task.Matches.request h).lift_next fun o ↦ ?_) fun _ _ h ↦ h.eq
    cases o with
    | none => exact .done (.error _)
    | some answer => exact .done (.ok rfl)

variable (hB : B.Lawful)
include hB

theorem sendOnce_matches_self {method url : String} {body : Body} (ha : B.allows method url body)
    (token : Option String) :
    (sendOnce method url token body).run.Matches B.consoles Eq (sendOnce method url token body).run := by
  apply sendOnce_matches
  cases hr : buildRequest method url token body with
  | none => exact .none
  | some r => exact .some (hB.requests ha hr)

theorem postPublic_matches {url : String} {body : Json} (ha : B.allows "POST" url (.json body)) :
    (postPublic url body).run.Matches B.consoles Eq (postPublic url body).run :=
  sendOnce_matches_self hB ha none

theorem accessToken_matches : accessToken.Matches B.consoles Eq accessToken := by
  refine (onProfile_matches (Profile.credential_agrees hB.kin)).bind fun c c' hc ↦ .done ?_
  cases hc with
  | none => rfl
  | some hc => exact congrArg some hc.access

theorem refresh_matches : refresh.run.Matches B.consoles (Fares Eq) refresh.run := by
  refine (onProfile_matches (Profile.credential_agrees hB.kin)).lift_bind fun c c' hc ↦ ?_
  have ht : Option.Rel (B.kin.values Profile.refreshCookie) (c.bind Credential.refresh)
      (c'.bind Credential.refresh) := by
    cases hc with
    | none => exact .none
    | some hc => exact hc.refresh
  generalize c.bind Credential.refresh = token at ht ⊢
  generalize c'.bind Credential.refresh = token' at ht ⊢
  cases ht with
  | none => exact .done (.error _)
  | @some token token' ht =>
    refine stored_bind_matches (Profile.deviceId_agrees hB.kin) fun device device' hd ↦ ?_
    obtain ⟨rfl, hd⟩ := hd
    refine routes_matches.lift_bind fun routes _ hr ↦ ?_
    obtain ⟨rfl, config, hk, rfl⟩ := hr
    let url := (Routes.ofBase config.apiUrl).refreshToken
    have hs : (sendOnce "POST" url none (.json (refreshBody token device.write))).run.Matches B.consoles Eq
        (sendOnce "POST" url none (.json (refreshBody token' device.write))).run := by
      refine sendOnce_matches (buildRequest_json_rel fun r hr ↦ ?_)
      exact hB.renewals hk ht hd hr (buildRequest_json hr _)
    refine hs.lift_next fun r ↦ ?_
    cases r with
    | error e => exact .done (.error _)
    | ok answer =>
      simp only
      cases refreshedTokens answer with
      | error why => exact .done (.error _)
      | ok pair => exact stored_next_matches (Profile.replaceTokens_agrees hB.kin pair) fun _ ↦ .done (.ok rfl)

theorem discardCredential_matches : discardCredential.Matches B.consoles Eq discardCredential :=
  (onProfile_matches (Profile.clearCredential_agrees hB.kin)).bind fun _ _ _ ↦ .done rfl

theorem renew_matches : freshToken.renew.run.Matches B.consoles (Fares Eq) freshToken.renew.run := by
  refine ((refresh_matches hB).mono fun _ _ h ↦ h.eq).lift_next fun r ↦ ?_
  cases r with
  | ok t => exact .done (.ok rfl)
  | error e =>
    refine (discardCredential_matches hB).lift_next fun _ ↦ Task.Matches.lift_next ?_ fun _ ↦ .done (.error e)
    exact modify_matches fun _ ↦ rfl

theorem freshToken_matches (refused : Option String) :
    (freshToken refused).run.Matches B.consoles (Fares Eq) (freshToken refused).run := by
  refine (accessToken_matches hB).lift_next fun current ↦ ?_
  cases current with
  | none => exact renew_matches hB
  | some t =>
    simp only
    split
    · exact .done (.ok rfl)
    · exact renew_matches hB

theorem request_matches {method url : String} {body : Body} (ha : B.allows method url body) :
    (request method url body).run.Matches B.consoles (Fares Eq) (request method url body).run := by
  refine (accessToken_matches hB).lift_next fun token ↦ ?_
  refine (sendOnce_matches_self hB ha token).except_next fun first ↦ ?_
  split
  · exact .done (.ok rfl)
  refine (Task.Matches.acquire _).lift_next fun _ ↦ ?_
  refine ((freshToken_matches hB token).mono fun _ _ h ↦ h.eq).lift_next fun fresh ↦ ?_
  refine (Task.Matches.release _).lift_next fun _ ↦ ?_
  cases fresh with
  | error e => exact .done (.error e)
  | ok t => exact (sendOnce_matches_self hB ha (some t)).mono fun _ _ h ↦ h ▸ .refl _

theorem Chore.matches {t : ConsoleM α} (h : Chore B.allows t) : t.Matches B.consoles Eq t := by
  induction h with
  | done a => exact .done rfl
  | bind _ _ ih ihf => exact ih.next ihf
  | read f => exact read_matches f
  | modify hf => exact modify_matches fun c ↦ congrArg Standing.config (hf c)
  | observe => exact modify_matches fun c ↦ c.observed_config.1
  | request ha => exact (request_matches hB ha).mono fun _ _ h ↦ h.eq
  | postPublic ha => exact postPublic_matches hB ha
  | acquire k => exact .acquire _
  | release k => exact .release _
  | all _ ih => exact .all (List.forall₂_same.mpr ih)

omit hB in
theorem setStatus_matches (s : SessionStatus) : (setStatus s).Matches B.consoles Eq (setStatus s) :=
  modify_matches fun _ ↦ rfl

theorem fetchCurrentUser_matches : fetchCurrentUser.run.Matches B.consoles Eq fetchCurrentUser.run :=
  (fetchCurrentUser_chore hB.plain).matches hB

theorem settled_matches : bootstrap.settled.Matches B.consoles Eq bootstrap.settled := by
  refine (onProfile_matches (Profile.credential_agrees hB.kin)).bind fun c c' hc ↦ ?_
  cases hc with
  | none => exact .done rfl
  | some _ =>
    refine (fetchCurrentUser_matches hB).next fun r ↦ ?_
    cases r with
    | ok session => exact .done rfl
    | error e => exact (discardCredential_matches hB).next fun _ ↦ .done rfl

theorem bootstrap_matches : bootstrap.Matches B.consoles Eq bootstrap :=
  (setStatus_matches _).next fun _ ↦ (settled_matches hB).next fun status ↦
    (setStatus_matches status).next fun _ ↦ .done rfl

/-- Two logins that store the same go on alike if their calls are alike. -/
theorem tryLogin_matches {payload payload' : LoginPayload} (hs : payload.toStored = payload'.toStored)
    (ha : ∀ config, B.known config → Option.Rel B.sends (loginCall (.ofBase config.apiUrl) payload).request?
      (loginCall (.ofBase config.apiUrl) payload').request?) (remember : Bool) :
    (tryLogin payload remember).run.Matches B.consoles (Fares Eq) (tryLogin payload' remember).run := by
  refine routes_matches.lift_bind fun routes _ hr ↦ ?_
  obtain ⟨rfl, config, hk, rfl⟩ := hr
  refine (sendOnce_matches (ha config hk)).except_next fun answer ↦ ?_
  cases loginTokens answer with
  | error e => exact .done (.error e)
  | ok pair =>
    have hp : Profile.setCredential pair remember (some payload) =
        Profile.setCredential pair remember (some payload') := by
      have he : payload.email = payload'.email := congrArg StoredLogin.email hs
      simp only [Profile.setCredential, Profile.keepLogin, hs, he]
    simp only [hp]
    refine stored_next_matches (Profile.setCredential_agrees hB.kin pair remember _) fun _ ↦ ?_
    refine (fetchCurrentUser_matches hB).lift_next fun r ↦ ?_
    cases r with
    | ok session => exact .done (.ok rfl)
    | error e => exact (discardCredential_matches hB).lift_next fun _ ↦ .done (.error e)

theorem loginWith_matches {payload payload' : LoginPayload} (hs : payload.toStored = payload'.toStored)
    (ha : ∀ config, B.known config → Option.Rel B.sends (loginCall (.ofBase config.apiUrl) payload).request?
      (loginCall (.ofBase config.apiUrl) payload').request?) (remember : Bool) :
    (loginWith payload remember).Matches B.consoles Eq (loginWith payload' remember) := by
  refine (setStatus_matches _).next fun _ ↦ ?_
  refine ((tryLogin_matches hB hs ha remember).mono fun _ _ h ↦ h.eq).next fun r ↦ ?_
  cases r with
  | ok session => exact (setStatus_matches _).next fun _ ↦ .done rfl
  | error e => exact (setStatus_matches _).next fun _ ↦ .done rfl

theorem loginWith_matches_self {payload : LoginPayload} (ha : ∀ url, B.allows "POST" url (.json payload.toJson))
    (remember : Bool) :
    (loginWith payload remember).Matches B.consoles Eq (loginWith payload remember) := by
  refine loginWith_matches hB rfl (fun config _ ↦ ?_) remember
  cases hr : (loginCall (.ofBase config.apiUrl) payload).request? with
  | none => exact .none
  | some r => exact .some (hB.requests (ha _) hr)

theorem login_matches (email password : String) (remember : Bool) :
    (login email password remember).run.Matches B.consoles (Fares Eq) (login email password remember).run := by
  refine stored_bind_matches (Profile.deviceId_agrees hB.kin) fun device device' hd ↦ ?_
  obtain ⟨rfl, hd⟩ := hd
  refine (read_matches fun c ↦ c).lift_next fun context ↦ ?_
  exact (loginWith_matches_self hB (fun url ↦ hB.logins url hd) remember).lift

theorem signOut_matches : signOut.run.Matches B.consoles (Fares Eq) signOut.run := by
  refine (current_chore.matches hB).lift_next fun _ ↦ ?_
  refine stored_next_matches (Profile.clearCredential_agrees hB.kin) fun _ ↦ ?_
  refine stored_next_matches (Profile.clearRemembered_agrees hB.kin) fun _ ↦ ?_
  exact (setStatus_matches _).lift

theorem start_matches : start.run.Matches B.consoles (Fares Eq) start.run :=
  stored_next_matches (Profile.purge_agrees hB.kin) fun _ ↦ (bootstrap_matches hB).lift

theorem reload_matches : reload.Matches B.consoles Eq reload := by
  refine Task.Matches.next ?_ fun _ ↦ bootstrap_matches hB
  exact modify_matches fun _ ↦ rfl

end Console

namespace Desk

theorem Chore.matches (hB : B.Lawful) {t : DeskM α} (h : Chore B.allows t) : t.Matches B.desks Eq t := by
  induction h with
  | done a => exact .done rfl
  | bind _ _ ih ihf => exact ih.next ihf
  | onConsole h =>
    exact (h.matches hB).zoom (fun _ _ hd ↦ hd.1) (fun _ _ _ _ hc hd ↦ ⟨hc, hd.2⟩) fun _ _ ↦ id
  | @read _ f hf =>
    refine .look fun d d' hd ↦ .done ?_
    rw [← hf d d'.console.profile, hd.1.context, hd.2.1, hd.2.2]
  | modifyForm f => exact .update (fun _ _ hd ↦ ⟨hd.1, hd.2.1, congrArg f hd.2.2⟩) (.done rfl)

end Desk

end Backoffice
