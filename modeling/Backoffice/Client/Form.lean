import Backoffice.Record.Country
import Backoffice.Record.User
import Backoffice.Web.Message

namespace Backoffice

open Web (Part Multipart)

structure ImageUpload where
  fileName : String
  mime : Option String
  bytes : List UInt8
  deriving DecidableEq, Repr

/-- The contact values that the edited user had when the form was opened. -/
structure ContactValues where
  email : String
  isdCode : String
  countryId : Option (Id .country)
  mobileNumber : String
  deriving DecidableEq, Repr

structure UserForm where
  firstName : String
  lastName : String
  email : String
  password : String
  mobileNumber : String
  isdCode : String
  countryId : Option (Id .country)
  roleId : Option (Id .role)
  status : String
  clientId : Option (Id .client)
  businessUnitId : Option (Id .businessUnit)
  image : Option ImageUpload
  formerContact : ContactValues
  deriving DecidableEq, Repr

def idText {e : Entity} : Option (Id e) → String
  | some i => i.text
  | none => ""

namespace UserForm

def blank : UserForm where
  firstName := ""
  lastName := ""
  email := ""
  password := ""
  mobileNumber := ""
  isdCode := ""
  countryId := none
  roleId := none
  status := "active"
  clientId := none
  businessUnitId := none
  image := none
  formerContact := ⟨"", "", none, ""⟩

def ofUser (u : AdminUser) : UserForm where
  firstName := u.firstName
  lastName := u.lastName
  email := u.email
  password := ""
  mobileNumber := u.mobileNumber
  isdCode := u.isdCode
  countryId := u.countryId
  roleId := u.role.map Reference.id
  status := u.status.code
  clientId := u.clientId
  businessUnitId := u.businessUnitId
  image := none
  formerContact := ⟨u.email, u.isdCode, u.countryId, u.mobileNumber⟩

/-- Takes a value of the country select: a dialling code and a country with a bar between them. -/
def setCountry (f : UserForm) (value : String) : Except DomainError UserForm :=
  match Text.splitOnce '|' value with
  | none => .error (.notSelectValue value)
  | some (isd, country) =>
    match Id.parse country with
    | .error e => .error e
    | .ok id => .ok { f with isdCode := Text.trim isd, countryId := some id }

def imageParts (f : UserForm) : List Part :=
  match f.image with
  | some i => [⟨"image", .file i.fileName i.mime i.bytes⟩]
  | none => []

def createSubmission (f : UserForm) : Multipart :=
  ⟨[.text "firstName" f.firstName, .text "lastName" f.lastName, .text "email" f.email,
    .text "password" f.password, .text "isdCode" (Text.dropPlus f.isdCode),
    .text "countryId" (idText f.countryId), .text "isdCodeCountryId" (idText f.countryId),
    .text "mobileNumber" f.mobileNumber, .text "clientId" (idText f.clientId),
    .text "businessUnitId" (idText f.businessUnitId), .text "roleId" (idText f.roleId),
    .text "status" f.status] ++ f.imageParts⟩

/-- A contact value: the former one, and the current one under a name of its own if it
differs. -/
def change (name newName former current : String) : List Part :=
  if former = current then [.text name current]
  else [.text name former, .text newName current]

def editSubmission (f : UserForm) (id : Id .user) : Multipart :=
  ⟨[.text "id" id.text] ++
    change "email" "newEmail" f.formerContact.email f.email ++
    change "isdCode" "newIsdCode" (Text.dropPlus f.formerContact.isdCode)
      (Text.dropPlus f.isdCode) ++
    change "countryId" "newCountryId" (idText f.formerContact.countryId) (idText f.countryId) ++
    change "mobileNumber" "newMobileNumber" f.formerContact.mobileNumber f.mobileNumber ++
    [.text "firstName" f.firstName, .text "lastName" f.lastName] ++
    (if f.password.isEmpty then [] else [.text "password" f.password]) ++
    [.text "clientId" (idText f.clientId), .text "businessUnitId" (idText f.businessUnitId),
      .text "role" (idText f.roleId), .text "status" f.status] ++
    f.imageParts⟩

end UserForm

end Backoffice
