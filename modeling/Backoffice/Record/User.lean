import Backoffice.Record.Image
import Backoffice.Record.Person
import Backoffice.Record.Reference
import Backoffice.Record.Status

namespace Backoffice

structure AdminUser where
  id : Id .user
  firstName : String
  lastName : String
  email : String
  mobileNumber : String
  isdCode : String
  countryId : Option (Id .country)
  role : Option (Reference .role)
  status : Status
  client : Option (Reference .client)
  businessUnit : Option (Reference .businessUnit)
  image : Option Image
  deriving DecidableEq, Repr

namespace AdminUser

def schema : Schema := [
  .of "_id" Decoder.text.optional, .of "id" Decoder.text.optional,
  .of "firstName" Decoder.text.optional, .of "lastName" Decoder.text.optional,
  .of "email" Decoder.text.optional, .of "mobileNumber" Decoder.text.optional,
  .of "isdCode" Decoder.text.optional, .of "countryId" Decoder.text.optional,
  .of "isdCodeCountryId" Decoder.text.optional, .of "role" Embedded.decode.optional,
  .of "status" Status.decode.optional, .of "clientId" Decoder.text.optional,
  .of "client" Embedded.decode.optional, .of "businessUnitId" Decoder.text.optional,
  .of "businessUnit" Embedded.decode.optional, .of "image" Image.decodeEmbedded.optional]

def ofRow (row : Row) : Except DecodeError AdminUser := do
  let underscored ← row.text? "_id"
  let plain ← row.text? "id"
  let firstName ← row.text? "firstName"
  let lastName ← row.text? "lastName"
  let email ← row.text? "email"
  let mobileNumber ← row.text? "mobileNumber"
  let isdCode ← row.text? "isdCode"
  let countryId ← row.text? "countryId"
  let isdCodeCountryId ← row.text? "isdCodeCountryId"
  let role ← row.optional "role" Embedded.decode
  let status ← row.optional "status" Status.decode
  let clientId ← row.text? "clientId"
  let client ← row.optional "client" Embedded.decode
  let unitId ← row.text? "businessUnitId"
  let unit ← row.optional "businessUnit" Embedded.decode
  let image ← row.optional "image" Image.decodeEmbedded
  let id ← chooseId .user underscored plain
  return {
    id
    firstName := firstName.getD ""
    lastName := lastName.getD ""
    email := email.getD ""
    mobileNumber := mobileNumber.getD ""
    isdCode := isdCode.getD ""
    countryId := (chooseId? countryId isdCodeCountryId).map Id.mk
    role := Reference.merge none role
    status := status.getD .active
    client := Reference.merge clientId client
    businessUnit := Reference.merge unitId unit
    image }

def decode : Decoder AdminUser := fun d ↦ do
  let row ← schema.read d
  ofRow row

def toJson (u : AdminUser) : Json :=
  .obj [
    ("_id", .str u.id.text), ("businessUnit", Json.ofOption Reference.toJson u.businessUnit),
    ("client", Json.ofOption Reference.toJson u.client),
    ("countryId", Json.ofOption (fun i ↦ .str i.text) u.countryId), ("email", .str u.email),
    ("firstName", .str u.firstName), ("image", Json.ofOption Image.toJson u.image),
    ("isdCode", .str u.isdCode), ("lastName", .str u.lastName),
    ("mobileNumber", .str u.mobileNumber), ("role", Json.ofOption Reference.toJson u.role),
    ("status", u.status.toJson)]

def displayName (u : AdminUser) : String := fullName u.firstName u.lastName

def clientId (u : AdminUser) : Option (Id .client) := u.client.map Reference.id

def businessUnitId (u : AdminUser) : Option (Id .businessUnit) := u.businessUnit.map Reference.id

def businessUnitName (u : AdminUser) (id : Id .businessUnit) : Option String :=
  match u.businessUnit with
  | some r => if r.id = id then r.name else none
  | none => none

/-- The user with the members of a patch laid over its written form. A patch that does not fit
leaves the user as it is. -/
def merge (u : AdminUser) (patch : Json) : AdminUser :=
  match decode (u.toJson.overlay patch).toDocument with
  | .ok merged => merged
  | .error _ => u

end AdminUser

end Backoffice
