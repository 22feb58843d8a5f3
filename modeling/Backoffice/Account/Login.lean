import Backoffice.Account.Device
import Backoffice.Json.Decode
import Backoffice.Json.Writer

namespace Backoffice

structure LoginPayload where
  email : String
  password : String
  device : DeviceInfo
  deriving DecidableEq, Repr

structure StoredLogin where
  email : String
  device : DeviceInfo
  deriving DecidableEq, Repr

namespace StoredLogin

def schema : Schema :=
  .required "email" Decoder.text :: DeviceInfo.schema DeviceType.decodeMember

def decodeForm : Decoder StoredLogin := fun d ↦ do
  let row ← schema.readObject d
  let email ← row.required "email" Decoder.text
  let device ← DeviceInfo.ofRow DeviceType.decodeMember row
  return ⟨email, device⟩

/-- The members of the device stand beside the email. -/
def decode : Decoder StoredLogin := Decoder.whole decodeForm

def members (l : StoredLogin) : List (String × Json) := ("email", .str l.email) :: l.device.members

def toJson (l : StoredLogin) : Json := Json.ofMembers l.members

def write (l : StoredLogin) : String := (Json.obj l.members).compact

def read? (text : String) : Option StoredLogin := (decodeText decode text).toOption

end StoredLogin

namespace LoginPayload

def toStored (p : LoginPayload) : StoredLogin := ⟨p.email, p.device⟩

def toJson (p : LoginPayload) : Json :=
  Json.ofMembers (("email", .str p.email) :: ("password", .str p.password) :: p.device.members)

def describe (p : LoginPayload) : String :=
  "LoginPayload \x7b email: " ++ Text.quoted p.email ++ ", password: \"<redacted>\", device: " ++
    p.device.describe ++ " \x7d"

end LoginPayload

end Backoffice
