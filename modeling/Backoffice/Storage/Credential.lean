import Backoffice.Account.Login
import Backoffice.Account.Token
import Backoffice.Storage.Profile

namespace Backoffice

structure Credential where
  access : String
  refresh : Option String
  expiry : ExpiryPolicy
  deriving DecidableEq, Repr

def Credential.describe (c : Credential) : String :=
  "Credential \x7b access_token: \"<redacted>\", refresh_token: " ++ describeSecret c.refresh ++
    ", expiry: " ++ c.expiry.describe ++ " \x7d"

namespace Profile

def accessCookie : String := "console-admin-access-token"

def refreshCookie : String := "console-admin-refresh-token"

def rememberKey : String := "rememberMe"

def emailKey : String := "savedEmail"

def deviceKey : String := "app_device_id"

def loginKey : String := "loginPayload"

variable {α : Type}

def orElse (default : α) (act : ProfileM α) : StateM Profile α := do
  match ← act.run with
  | .ok a => return a
  | .error _ => return default

def rememberMe : StateM Profile Bool :=
  orElse false do return (← localGet rememberKey) == some "true"

/-- Writes tokens that expire at some time. A pair without a refresh token leaves the one that is
there. -/
def writeTokens (tokens : TokenPair) (policy : ExpiryPolicy) : ProfileM Unit := do
  let expiry := policy.expiresAt (← get).now
  setCookie accessCookie tokens.access expiry
  match tokens.refresh with
  | some r => setCookie refreshCookie r expiry
  | none => return ()

/-- Keeps what the sign-in form fills in again, and the login without its password. -/
def keepLogin (remember : Bool) (payload : LoginPayload) : ProfileM Unit := do
  sessionSet loginKey payload.toStored.write
  if remember then localSet emailKey payload.email else localRemove emailKey

def setCredential (tokens : TokenPair) (remember : Bool) (payload : Option LoginPayload) :
    ProfileM Unit := do
  writeTokens tokens (.ofRemember remember)
  localSet rememberKey (if remember then "true" else "false")
  match payload with
  | some p => keepLogin remember p
  | none => return ()

def replaceTokens (tokens : TokenPair) : ProfileM Unit := do
  let remember ← rememberMe
  writeTokens tokens (.ofRemember remember)

def nonempty? : Option String → Option String
  | some s => if s.isEmpty then none else some s
  | none => none

/-- The stored tokens. Without a readable access token there are none. -/
def credential : StateM Profile (Option Credential) := do
  match nonempty? (← orElse none (cookie accessCookie)) with
  | none => return none
  | some access =>
    let refresh ← orElse none (cookie refreshCookie)
    let remember ← rememberMe
    return some ⟨access, nonempty? refresh, .ofRemember remember⟩

def clearCredential : ProfileM Unit := do
  removeCookie accessCookie
  removeCookie refreshCookie
  localRemove rememberKey

def clearRemembered : ProfileM Unit := do
  localRemove rememberKey
  localRemove emailKey
  sessionRemove loginKey

def savedEmail : StateM Profile (Option String) := do
  return nonempty? (← orElse none (localGet emailKey))

def lastLogin : StateM Profile (Option StoredLogin) := do
  return ((← get).session.get? loginKey).bind StoredLogin.read?

def issueDeviceId : ProfileM DeviceId :=
  modifyGet fun p ↦
    (p.host.deviceIds p.host.issued, { p with host := { p.host with issued := p.host.issued + 1 } })

/-- The device identifier of the installation. One is made and kept where there is none, or none
that can be read. -/
def deviceId : ProfileM DeviceId := do
  match ((← localGet deviceKey).map DeviceId.parse).bind Except.toOption with
  | some id => return id
  | none =>
    let id ← issueDeviceId
    localSet deviceKey id.write
    return id

end Profile

end Backoffice
