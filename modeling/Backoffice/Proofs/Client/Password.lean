import Backoffice.Proofs.Client.Course

namespace Backoffice

open Web (Request)

variable {routes : Routes} {password password' : String}

/-- The login call of a payload, under the routes of a client. -/
structure Web.Request.IsLogin (routes : Routes) (payload : LoginPayload) (r : Request) : Prop where
  method : r.method = "POST"
  url : Url.parse? (routes.base ++ "/admin/login") = some r.url
  auth : r.auth = none
  body : r.body = .json (.ofMembers (("email", .str payload.email) :: ("password", .str payload.password) ::
    payload.device.members))

theorem isLogin_loginCall {payload : LoginPayload} {r : Request}
    (hr : (Console.loginCall routes payload).request? = some r) : r.IsLogin routes payload := by
  obtain ⟨url, hu, rfl⟩ := Call.request?_eq_some hr
  exact ⟨rfl, hu, rfl, rfl⟩

/-- Requests that are the same but for the password in a login call. -/
def Web.Request.SameButPassword (routes : Routes) (password password' : String) (r r' : Request) : Prop :=
  r = r' ∨ ∃ payload : LoginPayload, payload.password = password ∧ r.IsLogin routes payload ∧
    r'.IsLogin routes { payload with password := password' }

/-- Nothing but the requests may differ, and these in the password of a login call only. -/
def Likeness.passwords (routes : Routes) (password password' : String) : Likeness Workspace :=
  ⟨Eq, Request.SameButPassword routes password password'⟩

def Kinship.same : Kinship where
  values _ := Eq
  fit _ := True
  devices _ := True

theorem Kinship.same_lawful : Kinship.same.Lawful := .of_values (fun _ _ ↦ rfl) (fun h ↦ by rw [h]) id

/-- Clients of one configuration, whose requests differ in the password of a login call only. -/
def Bond.passwords (config : Config) (password password' : String) : Bond where
  kin := .same
  known c := c = config
  allows _ _ _ := True
  sends := Request.SameButPassword (.ofBase config.apiUrl) password password'

theorem Bond.passwords_lawful (config : Config) (password password' : String) :
    (Bond.passwords config password password').Lawful where
  kin := Kinship.same_lawful
  plain := .free
  requests _ _ := .inl rfl
  logins _ _ := trivial
  renewals _ hv _ hr hr' := by
    cases hv
    exact .inl (Option.some.inj (hr.symm.trans hr'))

theorem Bond.passwords_consoles {config : Config} {c c' : Console} :
    (Bond.passwords config password password').consoles.states c c' ↔ c = c' ∧ c.context.config = config := by
  constructor
  · intro hc
    obtain ⟨p, x⟩ := c
    obtain ⟨p', x'⟩ := c'
    cases hc.profiles.eq fun _ _ _ ↦ id
    cases hc.context
    exact ⟨rfl, hc.known⟩
  · rintro ⟨rfl, hk⟩
    have hr : ∀ name v, Kinship.same.values name v v := Kinship.same_lawful.refl
    exact ⟨⟨⟨⟨⟨.refl (fun _ ↦ .refl) _, rfl⟩, rfl⟩, trivial, trivial⟩, .refl hr _, rfl⟩, rfl, hk⟩

namespace Console

theorem loginCall_rel (routes : Routes) (payload : LoginPayload) (password' : String) :
    Option.Rel (Request.SameButPassword routes payload.password password') (loginCall routes payload).request?
      (loginCall routes { payload with password := password' }).request? := by
  refine buildRequest_json_rel fun r hr ↦ .inr ⟨payload, rfl, isLogin_loginCall hr, ?_⟩
  exact isLogin_loginCall (buildRequest_json hr _)

theorem loginWith_hides (config : Config) (payload : LoginPayload) (password' : String) (remember : Bool) :
    (loginWith payload remember).Matches (Bond.passwords config payload.password password').consoles Eq
      (loginWith { payload with password := password' } remember) := by
  let payload' : LoginPayload := { payload with password := password' }
  have hs : payload.toStored = payload'.toStored := rfl
  refine loginWith_matches (Bond.passwords_lawful config payload.password password') hs (fun c hc ↦ ?_) remember
  cases hc
  exact loginCall_rel _ payload password'

theorem login_hides (config : Config) (email password password' : String) (remember : Bool) :
    (login email password remember).run.Matches (Bond.passwords config password password').consoles Eq
      (login email password' remember).run := by
  have hB := Bond.passwords_lawful config password password'
  refine Task.Matches.mono (Q := Fares Eq) ?_ fun _ _ h ↦ h.eq
  refine stored_bind_matches (Profile.deviceId_agrees hB.kin) fun device _ hd ↦ ?_
  obtain ⟨rfl, -⟩ := hd
  refine (read_matches fun c ↦ c).lift_next fun context ↦ ?_
  let info := DeviceInfo.ofHost device context.hostName context.config.appVersion
  exact (loginWith_hides config ⟨Text.trim email, password, info⟩ password' remember).lift

end Console

def Likeness.amidLogin (n : Nat) (config : Config) (password password' : String) : Likeness Workspace where
  states w w' := w = w' ∧ w.current = n ∧ (w.clients n).context.config = config
  sends := Request.SameButPassword (.ofBase config.apiUrl) password password'

theorem Likeness.amidLogin_lasting {n : Nat} {config : Config} :
    (Likeness.amidLogin n config password password').Lasting := by
  rintro w _ now ⟨rfl, hn, hc⟩
  exact ⟨rfl, hn, hc⟩

theorem Operation.login_hides (n : Nat) (config : Config) (email password password' : String) (remember : Bool) :
    (login email password remember).task.Matches (.amidLogin n config password password') Eq
      (login email password' remember).task := by
  refine .look fun w w' hw ↦ ?_
  obtain ⟨rfl, rfl, -⟩ := hw
  refine (Console.login_hides config email password password' remember).zoom ?_ ?_ fun _ _ ↦ id
  · rintro v _ ⟨rfl, -, hc⟩
    exact Bond.passwords_consoles.mpr ⟨rfl, hc⟩
  · rintro c _ v _ hc ⟨rfl, hn, -⟩
    obtain ⟨rfl, hk⟩ := Bond.passwords_consoles.mp hc
    refine ⟨rfl, hn, ?_⟩
    simp only [Workspace.putConsole, Workspace.setAt_self]
    exact hk

def Likeness.same : Likeness Workspace := ⟨Eq, Eq⟩

theorem Likeness.same_lasting : Likeness.same.Lasting := by
  rintro w _ now rfl
  rfl

theorem Likeness.same_bears (e : Leg) : Likeness.same.Bears e := by
  cases e with
  | opened config hostName r =>
    refine ⟨?_, .refl (fun _ ↦ rfl) _⟩
    rintro w _ rfl
    rfl
  | ran op a => exact .refl (fun _ ↦ rfl) _
  | ticked now => exact trivial

namespace Network.Blind

variable {net : Network World} {tr sent sent' : List Exchange}

theorem amidLogin {n : Nat} {config : Config}
    (hb : net.Blind ((Likeness.passwords (.ofBase config.apiUrl) password password').logged tr tr)) :
    net.Blind ((Likeness.amidLogin n config password password').logged tr tr) :=
  fun r r' w w' hr hw ↦ hb r r' w w' hr ⟨hw.1.1, hw.2⟩

/-- What made no difference between two passwords makes none between worlds in which one was sent and the
other. -/
theorem after_login (hb : net.Blind ((Likeness.passwords routes password password').logged tr tr))
    (hf : List.Forall₂ (Exchange.Matches (Request.SameButPassword routes password password')) sent sent') :
    net.Blind (Likeness.same.logged (sent ++ tr) (sent' ++ tr)) := by
  rintro r r' w w' hr ⟨hw, later, later', hl, hl', hfl⟩
  refine hb r r' w w' (.inl hr) ⟨hw, later ++ sent, later' ++ sent', ?_, ?_, List.rel_append ?_ hf⟩
  · rw [hl, List.append_assoc]
  · rw [hl', List.append_assoc]
  · exact hfl.imp fun _ _ h ↦ ⟨.inl h.request, h.outcome⟩

end Network.Blind

/-- A password reaches the login call only. Take a login, in any workspace, and a backend that makes no
difference between two passwords in the login calls of the current client. With either the login comes to the
same and leaves the same workspace, with all that is stored and all that is shown; the requests are the same
but for the password in the login call. And whatever happens from then on happens after either, with the same
requests, results and workspaces. -/
theorem WorkspaceM.Runs.login_hides_password {k : Clock} {net : Network World} {w v : World}
    {email password : String} {remember : Bool} {a : Except ClientError Bool} (hs : net.Serves k)
    (password' : String)
    (hb : net.Blind ((Likeness.passwords (w.1.console w.1.current).context.routes password password').logged
      w.2 w.2))
    (h : WorkspaceM.Runs net (Operation.login email password remember).task w a v) :
    ∃ v', WorkspaceM.Runs net (Operation.login email password' remember).task w a v' ∧ v'.1 = v.1 ∧
      (∃ sent sent', v.2 = sent ++ w.2 ∧ v'.2 = sent' ++ w.2 ∧
        List.Forall₂ (Exchange.Matches
          (Request.SameButPassword (w.1.console w.1.current).context.routes password password')) sent sent') ∧
      ∀ legs u, Course net v legs u →
        ∃ later, u.2 = later ++ v.2 ∧ Course net v' legs (u.1, later ++ v'.2) := by
  obtain ⟨b, v', hr, rfl, ⟨hv, -⟩, sent, sent', ht, ht', hf⟩ :=
    h.matches (hb.amidLogin.matches hs Likeness.amidLogin_lasting)
      (Operation.login_hides w.1.current (w.1.console w.1.current).context.config email password password' remember)
      ⟨⟨rfl, rfl, rfl⟩, [], [], rfl, rfl, .nil⟩
  refine ⟨v', hr, hv.symm, ⟨sent, sent', ht, ht', hf⟩, fun legs u hu ↦ ?_⟩
  -- From here on nothing differs but the exchanges of the login, which are over.
  have hb' := hb.after_login hf
  rw [← ht, ← ht'] at hb'
  obtain ⟨⟨w', _⟩, hc, rfl, later, later', hu, rfl, hfl⟩ := hu.matches (hb'.matches hs Likeness.same_lasting)
    Likeness.same_lasting (fun e _ ↦ Likeness.same_bears e) ⟨hv, [], [], rfl, rfl, .nil⟩
  obtain rfl := Exchange.eq_of_forall₂ hfl fun _ _ ↦ id
  exact ⟨later, hu, hc⟩

/-- With `s3cret` or with `guess`, the same user is signed in over an empty store. -/
theorem WorkspaceM.Runs.login_hides_password_of_two :
    ∃ (net : Network World) (w v v' : World),
      let routes := (w.1.console w.1.current).context.routes
      net.Serves .sparing ∧ net.Blind ((Likeness.passwords routes "s3cret" "guess").logged w.2 w.2) ∧
      WorkspaceM.Runs net (Operation.login "ada@example.com" "s3cret" true).task w (.ok true) v ∧
      WorkspaceM.Runs net (Operation.login "ada@example.com" "guess" true).task w (.ok true) v' ∧
      routes.base = "http://h" ∧ v.2.length = 2 ∧ v'.1 = v.1 ∧
      (∃ sent sent', v.2 = sent ++ w.2 ∧ v'.2 = sent' ++ w.2 ∧
        List.Forall₂ (Exchange.Matches (Request.SameButPassword routes "s3cret" "guess")) sent sent') ∧
      ∀ legs u, Course net v legs u →
        ∃ later, u.2 = later ++ v.2 ∧ Course net v' legs (u.1, later ++ v'.2) := by
  let host : Host := ⟨.empty .memory, ⟨0⟩, fun _ ↦ ⟨List.replicate 32 0, rfl⟩, 0⟩
  let w : World := (.initial host (.ofBase "http://h") "host", [])
  let net : Network World := openBackend.network fun _ _ ↦ some 5
  let login := Operation.login "ada@example.com" "s3cret" true
  let v := (Machine.run net 9 login.task.logged w).2.state
  have hn : net.Serves .sparing := openBackend.network_serves .sparing _
  have hb (routes : Routes) : net.Blind ((Likeness.passwords routes "s3cret" "guess").logged w.2 w.2) := by
    refine Backend.network_blind ?_ (fun w w' hw ↦ ?_) 5
    · rintro r r' (rfl | ⟨_, -, hr, hr'⟩)
      · rfl
      · simp only [hr.auth, hr'.auth]
    · exact congrArg (fun w : Workspace ↦ w.host.now) hw.1
  have hr : WorkspaceM.Runs net login.task w (.ok true) v := .of_toOption (by decide +kernel)
  obtain ⟨v', hr', hv, hsent, hlater⟩ := hr.login_hides_password hn "guess" (hb _)
  exact ⟨net, w, v, v', hn, hb _, hr, hr', by decide, by decide +kernel, hv, hsent, hlater⟩

end Backoffice
