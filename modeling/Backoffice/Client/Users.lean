import Backoffice.Client.ReferenceData

namespace Backoffice

open Web (Body Multipart Url)

structure MutationOutcome where
  success : Bool
  message : Option String
  error : Option ClientError
  deriving DecidableEq, Repr

namespace MutationOutcome

def succeeded (message : String) : MutationOutcome :=
  ⟨true, if message.isEmpty then none else some message, none⟩

def failed (e : ClientError) : MutationOutcome := ⟨false, some e.message, some e⟩

def sessionExpired (o : MutationOutcome) : Bool := o.error.any ClientError.isSessionExpired

end MutationOutcome

namespace UserPage

def empty : UserPage := ⟨[], ⟨1, 0, 0⟩⟩

def ofEnvelope (v : Envelope (List AdminUser)) : UserPage :=
  match v.data, v.pagination with
  | none, none => empty
  | users, pagination =>
    let p := pagination.getD ⟨1, 0, 0⟩
    ⟨users.getD [], { p with currentPage := max 1 p.currentPage }⟩

end UserPage

namespace Directory

def starting (d : Directory) : Directory := { d with loading := true, error := none }

def failing (e : ClientError) (d : Directory) : Directory :=
  { d with error := some e.message, loading := false }

def mapUser (id : Id .user) (f : AdminUser → AdminUser) (u : AdminUser) : AdminUser :=
  if u.id = id then f u else u

def mapUsers (id : Id .user) (f : AdminUser → AdminUser) (d : Directory) : Directory :=
  { d with
    page := d.page.map fun p ↦ { p with users := p.users.map (mapUser id f) }
    selected := d.selected.map (mapUser id f) }

def dropUser (id : Id .user) (d : Directory) : Directory :=
  { d with
    page := d.page.map fun p ↦ { p with users := p.users.filter fun u ↦ u.id ≠ id }
    selected := d.selected.filter fun u ↦ u.id ≠ id }

/-- Takes over the members that the backend gave back for a changed user. -/
def patched (id : Id .user) (data : Option Json) (d : Directory) : Directory :=
  match data with
  | some patch => if patch.isObject then d.mapUsers id (·.merge patch) else d
  | none => d

end Directory

namespace Console

def modifyDirectory (f : Directory → Directory) : ConsoleM Unit :=
  modify fun c ↦ { c with directory := f c.directory }

def directory : ConsoleM Directory := read Context.directory

def selectUser (u : Option AdminUser) : ConsoleM Unit :=
  modifyDirectory fun d ↦ { d with selected := u }

def noted {α : Type} (outcome : Except ClientError α) (success : α → Directory → Directory) :
    Action α := do
  match outcome with
  | .ok a =>
    sure (modifyDirectory fun d ↦ { success a d with loading := false })
    return a
  | .error e =>
    sure (modifyDirectory (Directory.failing e))
    throw e

def fetchPage (params : ListParams) : Action UserPage := do
  let routes ← sure (read Context.routes)
  match Url.parse? routes.users with
  | none => throw .invalidRequest
  | some url =>
    let envelope ← getEnvelope (Decoder.list AdminUser.decode) (url.withForm params.fields).write
    return .ofEnvelope envelope

def listUsers (params : ListParams) : Action UserPage := do
  sure (modifyDirectory fun d ↦ { d.starting with lastParams := params })
  let outcome ← sure (fetchPage params).run
  noted outcome fun page d ↦ { d with page := some page }

def userOf (v : Envelope AdminUser) : Except ClientError AdminUser :=
  if v.success then
    match v.data with
    | some u => .ok u
    | none => .error (.decode .noUser)
  else .error (.rejected (messageOr "Failed to fetch user" v.message))

def fetchUser (id : Id .user) : Action AdminUser := do
  sure (modifyDirectory Directory.starting)
  let outcome ← sure (fetchVia (·.user id) AdminUser.decode userOf).run
  noted outcome fun u d ↦ { d with selected := some u }

def listAgain : ConsoleM Unit := do
  let d ← directory
  let _ ← (listUsers d.lastParams).run
  return ()

def change (method url : String) (body : Body) (fallback : String) : Action (Envelope Json) := do
  sure (modifyDirectory Directory.starting)
  let envelope ← sendEnvelope Decoder.any method url body
  if envelope.success then return envelope
  throw (.rejected (messageOr fallback envelope.message))

def mutate (act : Action (Envelope Json)) (onSuccess : Option Json → Directory → Directory) :
    ConsoleM MutationOutcome := do
  match ← act.run with
  | .ok envelope =>
    modifyDirectory (onSuccess envelope.data)
    listAgain
    return .succeeded envelope.message
  | .error e =>
    modifyDirectory (Directory.failing e)
    return .failed e

def addUser (form : Multipart) : ConsoleM MutationOutcome := do
  let routes ← read Context.routes
  mutate (change "POST" routes.addUser (.multipart form) "Failed to add user") fun _ d ↦ d

def updateUser (id : Id .user) (form : Multipart) : ConsoleM MutationOutcome := do
  let routes ← read Context.routes
  mutate (change "POST" routes.editUser (.multipart form) "Failed to update user")
    (Directory.patched id)

def deleteRemark (reason : Option String) : String :=
  messageOr "User no longer active" (Text.trim (reason.getD ""))

def deleteBody (id : Id .user) (reason : Option String) : Json :=
  .obj [("deleteRemark", .str (deleteRemark reason)), ("id", .str id.text)]

def deleteUser (id : Id .user) (reason : Option String) : ConsoleM MutationOutcome := do
  let routes ← read Context.routes
  mutate (change "DELETE" routes.deleteUser (.json (deleteBody id reason)) "Failed to delete user")
    fun _ ↦ Directory.dropUser id

end Console

end Backoffice
