import Backoffice.Client.Cascade
import Backoffice.Client.Form
import Backoffice.Client.Users

namespace Backoffice

inductive FormMode where
  | create
  | edit (id : Id .user)
  deriving DecidableEq, Repr

structure Desk where
  console : Console
  mode : FormMode
  form : UserForm

abbrev DeskM := Task Gate Desk

namespace Desk

variable {α : Type}

def onConsole (t : ConsoleM α) : DeskM α :=
  t.zoom Desk.console (fun console d ↦ { d with console }) id

def read (f : Desk → α) : DeskM α := .look fun d ↦ .done (f d)

def modifyForm (f : UserForm → UserForm) : DeskM Unit :=
  .update (fun d ↦ { d with form := f d.form }) (.done ())

/-- A load whose outcome shows in the cache only. -/
def warm (act : Action α) : ConsoleM Unit := do
  let _ ← act.run
  return ()

def loadLists : ConsoleM Unit := do
  let _ ← Task.all [
    warm ListSource.countries.ensure, warm ListSource.clients.ensure, warm ListSource.roles.ensure]
  return ()

def loadUser (id : Id .user) : ExceptT ClientError DeskM Unit := do
  match ← ExceptT.lift (onConsole (Console.fetchUser id).run) with
  | .error e => throw e
  | .ok user =>
    let filled := UserForm.ofUser user
    ExceptT.lift (modifyForm fun _ ↦ filled)
    match filled.clientId with
    | some client => ExceptT.lift (onConsole (warm (Console.fetchUnits client)))
    | none => return ()

/-- Loads the lists side by side and then the user that is edited. Only the user must be there. -/
def prepare : ExceptT ClientError DeskM Unit := do
  ExceptT.lift (onConsole loadLists)
  match ← ExceptT.lift (read Desk.mode) with
  | .create => return ()
  | .edit id => loadUser id

/-- Picks a client: no unit is picked then, and its units are fetched. The form is written before
the fetch only, so an answer that comes late changes the cache and not the form. -/
def selectClient (id : Option (Id .client)) : ExceptT ClientError DeskM Unit := do
  let id := Id.filled? id
  ExceptT.lift (modifyForm fun f ↦ { f with clientId := id, businessUnitId := none })
  match id with
  | none => return ()
  | some id =>
    match ← ExceptT.lift (onConsole (Console.fetchUnits id).run) with
    | .ok _ => return ()
    | .error e => throw e

def selectUnit (id : Option (Id .businessUnit)) : DeskM Unit :=
  modifyForm fun f ↦ { f with businessUnitId := Id.filled? id }

def selectRole (id : Option (Id .role)) : DeskM Unit :=
  modifyForm fun f ↦ { f with roleId := Id.filled? id }

def selectCountry (value : String) : DeskM (Except DomainError UserForm) := do
  match (← read Desk.form).setCountry value with
  | .ok f =>
    modifyForm fun _ ↦ f
    return .ok f
  | .error e => return .error e

def selectedCountry : DeskM (Option Country) := do
  let f ← read Desk.form
  match f.countryId with
  | none => return none
  | some id =>
    let found ← onConsole (Console.findCountry (some id) f.isdCode)
    return found.filter fun c ↦ Text.dropPlus c.isdCode == Text.dropPlus f.isdCode

def countryOptions (search : String) : DeskM (List Country) :=
  onConsole (Console.filterCountries search)

def unitOptions : DeskM (List UnitOption) := do
  let f ← read Desk.form
  let cache ← onConsole Console.unitCache
  let directory ← onConsole Console.directory
  let cached := (f.clientId.map fun id ↦ (cache.list id).items).getD []
  let sources : UnitSources := ⟨directory.selected, directory.users, cache.items⟩
  return sources.options f.businessUnitId cached

def submit : DeskM MutationOutcome := do
  let f ← read Desk.form
  match ← read Desk.mode with
  | .create => onConsole (Console.addUser f.createSubmission)
  | .edit id => onConsole (Console.updateUser id (f.editSubmission id))

end Desk

end Backoffice
