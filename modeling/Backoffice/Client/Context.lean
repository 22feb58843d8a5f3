import Backoffice.Account.Session
import Backoffice.Client.Config
import Backoffice.Client.Error
import Backoffice.Client.Route
import Backoffice.Envelope
import Backoffice.Record.Client
import Backoffice.Record.Country
import Backoffice.Record.Role
import Backoffice.Storage.Credential
import Backoffice.Task.Basic

namespace Backoffice

structure ListState (α : Type) where
  items : List α
  loading : Bool
  error : Option ClientError
  loaded : Bool
  deriving Repr

def ListState.unloaded {α : Type} : ListState α := ⟨[], false, none, false⟩

/-- A list that is loaded once for all. `attempts` counts the loads that have ended. -/
structure Slot (α : Type) where
  list : ListState α
  attempts : Nat
  deriving Repr

def Slot.fresh {α : Type} : Slot α := ⟨.unloaded, 0⟩

inductive ReferenceKind where
  | countries
  | clients
  | roles
  deriving DecidableEq, Repr

abbrev UnitCache := List (Id .client × ListState UnitOption)

namespace UnitCache

def list (c : UnitCache) (id : Id .client) : ListState UnitOption :=
  match c with
  | [] => .unloaded
  | (k, l) :: rest => if k = id then l else list rest id

def update (id : Id .client) (f : ListState UnitOption → ListState UnitOption) :
    UnitCache → UnitCache
  | [] => [(id, f .unloaded)]
  | (k, l) :: rest =>
    if k = id then (k, f l) :: rest
    else if id.text < k.text then (id, f .unloaded) :: (k, l) :: rest
    else (k, l) :: update id f rest

def erase (id : Id .client) (c : UnitCache) : UnitCache := c.filter fun e ↦ e.1 ≠ id

def items (c : UnitCache) : List (Id .client × List UnitOption) := c.map fun e ↦ (e.1, e.2.items)

end UnitCache

inductive SortOrder where
  | asc
  | desc
  deriving DecidableEq, Repr

def SortOrder.name : SortOrder → String
  | asc => "asc"
  | desc => "desc"

structure ListParams where
  page : Option Nat
  limit : Option Nat
  search : Option String
  sort : Option String
  order : Option SortOrder
  deriving DecidableEq, Repr

namespace ListParams

def none : ListParams := ⟨.none, .none, .none, .none, .none⟩

def positive (name : String) : Option Nat → List (String × String)
  | some n => if 0 < n then [(name, toString n)] else []
  | .none => []

def nonempty (name : String) : Option String → List (String × String)
  | some s => if s.isEmpty then [] else [(name, s)]
  | .none => []

def fields (p : ListParams) : List (String × String) :=
  positive "page" p.page ++ positive "limit" p.limit ++ nonempty "search" p.search ++
    nonempty "sort" p.sort ++
    match p.order with
    | some o => [("order", o.name)]
    | .none => []

end ListParams

structure UserPage where
  users : List AdminUser
  pagination : Pagination
  deriving DecidableEq, Repr

/-- The users that were listed and the one that is selected. `error` is the text of the error of
the last call. -/
structure Directory where
  page : Option UserPage
  selected : Option AdminUser
  loading : Bool
  error : Option String
  lastParams : ListParams
  deriving DecidableEq, Repr

namespace Directory

def fresh : Directory := ⟨none, none, false, none, .none⟩

def users (d : Directory) : List AdminUser := (d.page.map UserPage.users).getD []

end Directory

/-- The locks of a client: one around token refreshes and one around the load of each list. -/
inductive Gate where
  | refresh
  | list (k : ReferenceKind)
  deriving DecidableEq, Repr

/-- A running client. `signOuts` counts the sign-outs that failed refreshes forced, `seen` those
that had happened when the session status was set. -/
structure Context where
  config : Config
  hostName : String
  signOuts : Nat
  status : SessionStatus
  seen : Nat
  countries : Slot Country
  clients : Slot ClientOption
  roles : Slot Role
  units : UnitCache
  directory : Directory

namespace Context

def fresh (config : Config) (hostName : String) : Context :=
  ⟨config, hostName, 0, .bootstrapping, 0, .fresh, .fresh, .fresh, [], .fresh⟩

def routes (c : Context) : Routes := Routes.ofBase c.config.apiUrl

end Context

structure Console where
  profile : Profile
  context : Context

abbrev ConsoleM := Task Gate Console

abbrev Action := ExceptT ClientError ConsoleM

namespace Console

variable {α : Type}

def onProfile (act : StateM Profile α) : ConsoleM α :=
  Task.state fun c ↦
    let (a, profile) := act c.profile
    (a, { c with profile })

def sure (t : ConsoleM α) : Action α := ExceptT.lift t

def stored (act : ProfileM α) : Action α := do
  match ← sure (onProfile act.run) with
  | .ok a => return a
  | .error e => throw (.storage e)

def read (f : Context → α) : ConsoleM α := .look fun c ↦ .done (f c.context)

def modify (f : Context → Context) : ConsoleM Unit :=
  .update (fun c ↦ { c with context := f c.context }) (.done ())

end Console

end Backoffice
