import Backoffice.Storage.Table
import Backoffice.Text.Search

namespace Backoffice

inductive StoreCall where
  | get (key : String)
  | set (key : String)
  | remove (key : String)
  | keys (start : String)
  deriving DecidableEq, Repr

def StoreCall.name : StoreCall → String
  | get _ => "get"
  | set _ => "set"
  | remove _ => "remove"
  | keys _ => "keys"

inductive StorageError where
  | refused (call : StoreCall)
  | corrupt
  | location
  deriving DecidableEq, Repr

def StorageError.message : StorageError → String
  | refused c => "storage backend error: " ++ c.name ++ " refused"
  | corrupt => "stored value is corrupt: not a cookie"
  | location => "cannot resolve storage location: no such directory"

/-- What keeps the entries: memory, a database, or nothing that can be opened. -/
inductive Engine where
  | memory
  | database
  | missing
  deriving DecidableEq, Repr

/-- Whether a key starts with a text. The database measures the text up to its first zero
character, and compares as much of the key with the whole text. -/
def Engine.keyStarts (e : Engine) (start key : String) : Bool :=
  match e with
  | .database =>
    let n := (start.toList.takeWhile (· != '\x00')).length
    key.toList.take n == start.toList
  | _ => Text.startsWith start.toList key.toList

/-- The store. `refuses n c` says that the call `c` is refused if `n` calls were made before it. -/
structure Durable where
  engine : Engine
  entries : Table
  calls : Nat
  refuses : Nat → StoreCall → Bool

namespace Durable

def empty (engine : Engine) : Durable := ⟨engine, [], 0, fun _ _ ↦ false⟩

variable {α : Type}

def perform (d : Durable) (c : StoreCall) (act : Table → α × Table) :
    Except StorageError α × Durable :=
  let d' := { d with calls := d.calls + 1 }
  if d.refuses d.calls c then (.error (.refused c), d')
  else if d.engine = .missing then (.error .location, d')
  else
    let (a, entries) := act d.entries
    (.ok a, { d' with entries })

def get (d : Durable) (key : String) : Except StorageError (Option String) × Durable :=
  d.perform (.get key) fun t ↦ (t.get? key, t)

def set (d : Durable) (key value : String) : Except StorageError Unit × Durable :=
  d.perform (.set key) fun t ↦ ((), t.put key value)

def remove (d : Durable) (key : String) : Except StorageError Unit × Durable :=
  d.perform (.remove key) fun t ↦ ((), t.erase key)

def keys (d : Durable) (start : String) : Except StorageError (List String) × Durable :=
  d.perform (.keys start) fun t ↦ ((t.map Prod.fst).filter (d.engine.keyStarts start), t)

end Durable

end Backoffice
