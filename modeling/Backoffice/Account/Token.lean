import Backoffice.Json.Schema

namespace Backoffice

structure TokenPair where
  access : String
  refresh : Option String
  deriving DecidableEq, Repr

def describeSecret : Option String → String
  | some _ => "Some(\"<redacted>\")"
  | none => "None"

def TokenPair.describe (p : TokenPair) : String :=
  "TokenPair \x7b access_token: \"<redacted>\", refresh_token: " ++ describeSecret p.refresh ++
    " \x7d"

structure AuthData where
  access : Option String
  refresh : Option String
  deriving DecidableEq, Repr

namespace AuthData

def schema : Schema := [
  .of "accessToken" Decoder.text.optional, .of "refreshToken" Decoder.text.optional]

def decode : Decoder AuthData := fun d ↦ do
  let row ← schema.read d
  let access ← row.text? "accessToken"
  let refresh ← row.text? "refreshToken"
  return ⟨access, refresh⟩

end AuthData

structure AuthResponse where
  success : Option Bool
  message : Option String
  data : Option AuthData
  accessToken : Option String
  apiToken : Option String
  refreshToken : Option String
  deriving DecidableEq, Repr

namespace AuthResponse

def schema : Schema := [
  .of "success" Decoder.bool.optional, .of "message" Decoder.text.optional,
  .of "data" AuthData.decode.optional, .of "access_token" Decoder.text.optional,
  .of "api_token" Decoder.text.optional, .of "refreshToken" Decoder.text.optional]

def decode : Decoder AuthResponse := fun d ↦ do
  let row ← schema.read d
  let success ← row.optional "success" Decoder.bool
  let message ← row.text? "message"
  let data ← row.optional "data" AuthData.decode
  let accessToken ← row.text? "access_token"
  let apiToken ← row.text? "api_token"
  let refreshToken ← row.text? "refreshToken"
  return ⟨success, message, data, accessToken, apiToken, refreshToken⟩

def firstGiven (texts : List (Option String)) : Option String :=
  (texts.filterMap id).find? (!·.isEmpty)

/-- The tokens of an answer, those inside its data first. There must be an access token. -/
def tokens? (r : AuthResponse) : Option TokenPair :=
  let inner (f : AuthData → Option String) := r.data.bind f
  match firstGiven [inner AuthData.access, r.accessToken, r.apiToken] with
  | some access => some ⟨access, firstGiven [inner AuthData.refresh, r.refreshToken]⟩
  | none => none

end AuthResponse

def refreshBody (refreshToken identifier : String) : Json :=
  .obj [("identifier", .str identifier), ("refreshToken", .str refreshToken)]

end Backoffice
