import Backoffice.Client.Http

namespace Backoffice

open Web (Response)

def Context.observed (c : Context) : Context :=
  if c.status.isAuthenticated && c.seen != c.signOuts then
    { c with status := .unauthenticated, seen := c.signOuts }
  else c

namespace Console

def status : ConsoleM SessionStatus := do
  modify Context.observed
  read Context.status

def current : ConsoleM (Option Session) := do
  return (← status).session?

def isAuthenticated : ConsoleM Bool := do
  return (← status).isAuthenticated

def setStatus (s : SessionStatus) : ConsoleM Unit :=
  modify fun c ↦ { c with status := s, seen := c.signOuts }

def fetchCurrentUser : Action Session := do
  let routes ← sure (read Context.routes)
  let envelope ← getEnvelope AdminUser.decode routes.me
  match envelope.result with
  | .error m => throw (.rejected m)
  | .ok none => throw (.decode .noCurrentUser)
  | .ok (some user) => return .ofUser user

/-- Settles the status from the stored credential. Without one nothing is sent; one that the
backend does not take is forgotten. -/
def bootstrap : ConsoleM SessionStatus := do
  setStatus .bootstrapping
  let status ← settled
  setStatus status
  return status
where
  settled : ConsoleM SessionStatus := do
    match ← onProfile Profile.credential with
    | none => return .unauthenticated
    | some _ =>
      match ← fetchCurrentUser.run with
      | .ok session => return .authenticated session
      | .error _ =>
        discardCredential
        return .unauthenticated

def loginTokens (r : Response) : Except ClientError TokenPair :=
  if !r.isSuccess then .error (apiError r)
  else
    match decodeBody AuthResponse.decode r with
    | .error e => .error (.decode (.undecodable e))
    | .ok answer =>
      if answer.success = some false then
        .error (.rejected (answer.message.getD "Invalid credentials"))
      else
        match answer.tokens? with
        | some pair => .ok pair
        | none => .error (.decode .noAccessToken)

def tryLogin (payload : LoginPayload) (remember : Bool) : Action Session := do
  let routes ← sure (read Context.routes)
  let answer ← postPublic routes.login payload.toJson
  match loginTokens answer with
  | .error e => throw e
  | .ok pair =>
    stored (Profile.setCredential pair remember (some payload))
    match ← sure fetchCurrentUser.run with
    | .ok session => return session
    | .error e =>
      sure discardCredential
      throw e

/-- Signs in, and says whether somebody is signed in now. -/
def loginWith (payload : LoginPayload) (remember : Bool) : ConsoleM Bool := do
  setStatus .loading
  match ← (tryLogin payload remember).run with
  | .ok session =>
    setStatus (.authenticated session)
    return true
  | .error _ =>
    setStatus .unauthenticated
    return false

def login (email password : String) (remember : Bool) : Action Bool := do
  let id ← stored Profile.deviceId
  let context ← sure (read fun c ↦ c)
  let device := DeviceInfo.ofHost id context.hostName context.config.appVersion
  sure (loginWith ⟨Text.trim email, password, device⟩ remember)

def signOut : Action Unit := do
  let _ ← sure current
  stored Profile.clearCredential
  stored Profile.clearRemembered
  sure (setStatus .unauthenticated)

end Console

end Backoffice
