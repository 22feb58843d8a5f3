import Backoffice.Text.Blank

namespace Backoffice

inductive Entity where
  | user
  | client
  | businessUnit
  | country
  | role
  deriving DecidableEq, Repr

namespace Entity

def title : Entity → String
  | user => "admin user"
  | client => "client"
  | businessUnit => "business unit"
  | country => "country"
  | role => "role"

def idTitle : Entity → String
  | user => "UserId"
  | client => "ClientId"
  | businessUnit => "BusinessUnitId"
  | country => "CountryId"
  | role => "RoleId"

end Entity

inductive DomainError where
  | notSelectValue (value : String)
  | blankId (e : Entity)
  | malformedDeviceId
  | unidentified (e : Entity)
  deriving DecidableEq, Repr

def DomainError.message : DomainError → String
  | notSelectValue v => "validation failed: country select value '" ++ v ++ "' is not '<isd>|<id>'"
  | blankId e => "invalid identifier: " ++ e.idTitle ++ ": empty"
  | malformedDeviceId => "invalid identifier: DeviceId: malformed"
  | unidentified e => "cannot normalize " ++ e.title ++ ": missing _id/id"

structure Id (e : Entity) where
  text : String
  deriving DecidableEq, Repr

namespace Id

variable {e : Entity}

def isBlank (i : Id e) : Bool := Text.isBlankText i.text

/-- An identifier from a text that a person wrote: trimmed, and not blank. -/
def parse (s : String) : Except DomainError (Id e) :=
  if Text.isBlankText s then .error (.blankId e) else .ok ⟨Text.trim s⟩

def filled? : Option (Id e) → Option (Id e)
  | some i => if i.isBlank then none else some i
  | none => none

end Id

end Backoffice
