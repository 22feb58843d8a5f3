import Backoffice.Client.Context
import Backoffice.Json.Decode
import Backoffice.Web.MediaType

namespace Backoffice

open Web (Request Response Body Url)

def unauthorized : Nat := 401

def noContent : Nat := 204

def bearer (token : String) : String := "Bearer " ++ token

def isMethod (s : String) : Bool := !s.isEmpty && s.toList.all Web.MediaType.isTokenChar

def buildRequest (method url : String) (token : Option String) (body : Body) : Option Request :=
  match Url.parse? url with
  | none => none
  | some u =>
    if u.isHttp && isMethod method && body.isSendable &&
        (token.all fun t ↦ Web.isHeaderValue t) then
      some ⟨method, u, token.map bearer, body⟩
    else none

def apiError (r : Response) : ClientError :=
  let given := ((Json.parse? (Text.lossy r.body)).bind (·.member? "message")).bind Json.str?
  match Profile.nonempty? given with
  | some m => .api r.status m
  | none => .api r.status ((Web.reason? r.status).getD "request failed")

def decodeBody {α : Type} (dec : Decoder α) (r : Response) : Except DecodeError α :=
  decodeText dec (Text.strict r.body)

/-- The envelope of an answer. No content is an empty success. -/
def envelopeOf {α : Type} (dec : Decoder α) (r : Response) : Except ClientError (Envelope α) :=
  if r.status = noContent then .ok .empty
  else if !r.isSuccess then .error (apiError r)
  else (decodeBody (Envelope.decode dec) r).mapError fun e ↦ .decode (.undecodable e)

namespace Console

variable {α : Type}

def sendOnce (method url : String) (token : Option String) (body : Body) : Action Response :=
  match buildRequest method url token body with
  | none => throw .invalidRequest
  | some r => do
    match ← sure (Task.request r) with
    | some answer => return answer
    | none => throw .transport

def accessToken : ConsoleM (Option String) := do
  return (← onProfile Profile.credential).map Credential.access

def refreshedTokens (r : Response) : Except RefreshFailure TokenPair :=
  if !r.isSuccess then .error (.refused r.status)
  else
    match decodeBody AuthResponse.decode r with
    | .error e => .error (.unexpected (.undecodable e))
    | .ok answer =>
      match answer.tokens? with
      | some pair => .ok pair
      | none => .error (.unexpected .noAccessToken)

def refresh : Action String := do
  let credential ← sure (onProfile Profile.credential)
  match credential.bind Credential.refresh with
  | none => throw (.refreshFailed .noToken)
  | some token =>
    let device ← stored Profile.deviceId
    let routes ← sure (read Context.routes)
    let body := Body.json (refreshBody token device.write)
    match ← sure (sendOnce "POST" routes.refreshToken none body).run with
    | .error _ => throw (.refreshFailed .unanswered)
    | .ok answer =>
      match refreshedTokens answer with
      | .error why => throw (.refreshFailed why)
      | .ok pair =>
        stored (Profile.replaceTokens pair)
        return pair.access

/-- Forgets the credential, whether or not the store lets it. -/
def discardCredential : ConsoleM Unit := do
  let _ ← onProfile Profile.clearCredential.run
  return ()

/-- The token to retry with after one was refused: the stored one if it is another, else a
refreshed one. -/
def freshToken (refused : Option String) : Action String := do
  let current ← sure accessToken
  match current with
  | some t =>
    if some t ≠ refused then return t else renew
  | none => renew
where
  renew : Action String := do
    match ← sure refresh.run with
    | .ok t => return t
    | .error e =>
      sure discardCredential
      sure (modify fun c ↦ { c with signOuts := c.signOuts + 1 })
      throw e

/-- Sends a request with the stored token, and once more if the token is refused. -/
def request (method url : String) (body : Body) : Action Response := do
  let token ← sure accessToken
  let first ← sendOnce method url token body
  if first.status ≠ unauthorized then return first
  sure (Task.acquire Gate.refresh)
  let fresh ← sure (freshToken token).run
  sure (Task.release Gate.refresh)
  match fresh with
  | .ok t => sendOnce method url (some t) body
  | .error e => throw e

def postPublic (url : String) (body : Json) : Action Response :=
  sendOnce "POST" url none (.json body)

def sendEnvelope (dec : Decoder α) (method url : String) (body : Body) : Action (Envelope α) := do
  let answer ← request method url body
  match envelopeOf dec answer with
  | .ok v => return v
  | .error e => throw e

def getEnvelope (dec : Decoder α) (url : String) : Action (Envelope α) :=
  sendEnvelope dec "GET" url .empty

end Console

end Backoffice
