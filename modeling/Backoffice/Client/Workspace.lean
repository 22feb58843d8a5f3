import Backoffice.Client.OpenForm
import Backoffice.Client.SignIn

namespace Backoffice

namespace Console

def fresh (profile : Profile) (config : Config) (hostName : String) : Console :=
  ⟨profile, .fresh config hostName⟩

def start : Action SessionStatus := do
  stored Profile.purge
  sure bootstrap

def reload : ConsoleM SessionStatus := do
  modify fun c ↦ .fresh c.config c.hostName
  bootstrap

/-- Signs out and reloads the client. Where signing out fails, the client stays as it is. -/
def logout : Action Unit := do
  signOut
  let _ ← sure reload
  return ()

end Console

structure SessionStore where
  cookies : Table
  session : Table

/-- A client among others: its session store may be that of an earlier one. -/
structure Seat where
  sessionStore : Nat
  context : Context

structure FormSeat where
  client : Nat
  mode : FormMode
  form : UserForm

/-- Clients over one durable store, by numbers of which those from `next` on are free. -/
structure Workspace where
  host : Host
  sessionStores : Nat → SessionStore
  clients : Nat → Seat
  forms : Nat → FormSeat
  next : Nat
  current : Nat
  openForm : Option Nat

abbrev WorkspaceM := Task (Nat × Gate) Workspace

namespace Workspace

variable {α : Type}

def setAt (f : Nat → α) (n : Nat) (a : α) : Nat → α := fun m ↦ if m = n then a else f m

def initial (host : Host) (config : Config) (hostName : String) : Workspace where
  host
  sessionStores := fun _ ↦ ⟨[], []⟩
  clients := fun _ ↦ ⟨0, .fresh config hostName⟩
  forms := fun _ ↦ ⟨0, .create, .blank⟩
  next := 0
  current := 0
  openForm := none

def console (n : Nat) (w : Workspace) : Console :=
  let seat := w.clients n
  let store := w.sessionStores seat.sessionStore
  ⟨⟨w.host, store.cookies, store.session⟩, seat.context⟩

def putConsole (n : Nat) (c : Console) (w : Workspace) : Workspace :=
  let store := (w.clients n).sessionStore
  { w with
    host := c.profile.host
    sessionStores := setAt w.sessionStores store ⟨c.profile.cookies, c.profile.session⟩
    clients := setAt w.clients n ⟨store, c.context⟩ }

def desk (n : Nat) (w : Workspace) : Desk :=
  let seat := w.forms n
  ⟨w.console seat.client, seat.mode, seat.form⟩

def putDesk (n : Nat) (d : Desk) (w : Workspace) : Workspace :=
  let client := (w.forms n).client
  let w := w.putConsole client d.console
  { w with forms := setAt w.forms n ⟨client, d.mode, d.form⟩ }

def read (f : Workspace → α) : WorkspaceM α := .look fun w ↦ .done (f w)

def modify (f : Workspace → Workspace) : WorkspaceM Unit := .update f (.done ())

def inClient (n : Nat) (t : ConsoleM α) : WorkspaceM α := t.zoom (console n) (putConsole n) (n, ·)

def inCurrent (t : ConsoleM α) : WorkspaceM α := do
  let n ← read Workspace.current
  inClient n t

def inForm (n : Nat) (t : DeskM α) : WorkspaceM α := do
  let client ← read fun w ↦ (w.forms n).client
  t.zoom (desk n) (putDesk n) (client, ·)

def inOpenForm (t : DeskM α) : WorkspaceM (Option α) := do
  match ← read Workspace.openForm with
  | some n => return some (← inForm n t)
  | none => return none

def allot : WorkspaceM Nat := do
  let n ← read Workspace.next
  modify fun w ↦ { w with next := n + 1 }
  return n

def addClient (store : Nat) (context : Context) : WorkspaceM Nat := do
  let n ← allot
  modify fun w ↦ { w with clients := setAt w.clients n ⟨store, context⟩ }
  return n

/-- Starts a client with an empty session and makes it the current one. Where that fails, the one
before stays. -/
def start (config : Config) (hostName : String) : ExceptT ClientError WorkspaceM SessionStatus := do
  let store ← ExceptT.lift allot
  let n ← ExceptT.lift (addClient store (.fresh config hostName))
  match ← ExceptT.lift (inClient n Console.start.run) with
  | .error e => throw e
  | .ok status =>
    ExceptT.lift (modify fun w ↦ { w with current := n, openForm := none })
    return status

def restart : ExceptT ClientError WorkspaceM SessionStatus := do
  let context ← ExceptT.lift (read fun w ↦ (w.clients w.current).context)
  start context.config context.hostName

/-- Signs out of the current client, which a new one with the same session store follows. Where
signing out fails, it stays current. No form stays open. -/
def logout : ExceptT ClientError WorkspaceM Unit := do
  let n ← ExceptT.lift (read Workspace.current)
  ExceptT.lift (modify fun w ↦ { w with openForm := none })
  match ← ExceptT.lift (inClient n Console.signOut.run) with
  | .error e => throw e
  | .ok () =>
    let seat ← ExceptT.lift (read fun w ↦ w.clients n)
    let m ← ExceptT.lift (addClient seat.sessionStore seat.context)
    let _ ← ExceptT.lift (inClient m Console.reload)
    ExceptT.lift (modify fun w ↦ { w with current := m })

def openUserForm (mode : FormMode) : ExceptT ClientError WorkspaceM UserForm := do
  let client ← ExceptT.lift (read Workspace.current)
  if !(← ExceptT.lift (inClient client Console.isAuthenticated)) then throw .notAuthenticated
  let n ← ExceptT.lift allot
  ExceptT.lift (modify fun w ↦ { w with forms := setAt w.forms n ⟨client, mode, .blank⟩ })
  match ← ExceptT.lift (inForm n Desk.prepare.run) with
  | .error e => throw e
  | .ok () =>
    ExceptT.lift (modify fun w ↦ { w with openForm := some n })
    ExceptT.lift (read fun w ↦ (w.forms n).form)

end Workspace

end Backoffice
