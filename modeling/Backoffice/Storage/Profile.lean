import Backoffice.Account.Device
import Backoffice.Account.Expiry
import Backoffice.Json.Decode
import Backoffice.Json.Writer
import Backoffice.Storage.Durable

namespace Backoffice

open Time (Instant)

/-- What a profile runs on: the durable store, the clock, and a source of device identifiers. -/
structure Host where
  durable : Durable
  now : Instant
  deviceIds : Nat → DeviceId
  issued : Nat

structure Profile where
  host : Host
  cookies : Table
  session : Table

/-- Work on a profile that may fail. What was done before a failure stays done. -/
abbrev ProfileM := ExceptT StorageError (StateM Profile)

structure StoredCookie where
  value : String
  expiresAt : Instant
  deriving DecidableEq, Repr

namespace StoredCookie

def decodeInstant : Decoder Instant
  | .str s =>
    match Instant.read? s with
    | some t => .ok t
    | none => .error .malformed
  | _ => .error .malformed

def schema : Schema := [
  .required "value" Decoder.text, .required "expiresAt" decodeInstant]

def decode : Decoder StoredCookie := fun d ↦ do
  let row ← schema.read d
  let value ← row.required "value" Decoder.text
  let expiresAt ← row.required "expiresAt" decodeInstant
  return ⟨value, expiresAt⟩

def write (c : StoredCookie) : String :=
  (Json.obj [("value", .str c.value), ("expiresAt", .str c.expiresAt.write)]).compact

def read? (text : String) : Option StoredCookie := (decodeText decode text).toOption

end StoredCookie

namespace Profile

def cookieStart : String := "cookie:"

def cookieKey (name : String) : String := cookieStart ++ name

def localKey (key : String) : String := "local:" ++ key

def now (p : Profile) : Instant := p.host.now

variable {α : Type}

def durably (act : Durable → Except StorageError α × Durable) : ProfileM α :=
  fun p ↦
    let (r, durable) := act p.host.durable
    (r, { p with host := { p.host with durable } })

def dropSessionCookie (name : String) : ProfileM Unit :=
  modify fun p ↦ { p with cookies := p.cookies.erase name }

/-- Sets a cookie in place of any of that name. Without an expiry it lives for the session. -/
def setCookie (name value : String) (expiry : Option Instant) : ProfileM Unit :=
  match expiry with
  | some t => do
    dropSessionCookie name
    durably (·.set (cookieKey name) (StoredCookie.write ⟨value, t⟩))
  | none => do
    durably (·.remove (cookieKey name))
    modify fun p ↦ { p with cookies := p.cookies.put name value }

/-- The durable cookie of a name. One that has expired is removed. -/
def durableCookie (name : String) : ProfileM (Option String) := do
  match ← durably (·.get (cookieKey name)) with
  | none => return none
  | some text =>
    match StoredCookie.read? text with
    | none => throw .corrupt
    | some c =>
      if isLive (some c.expiresAt) (← get).now then return some c.value
      else
        durably (·.remove (cookieKey name))
        return none

def cookie (name : String) : ProfileM (Option String) := do
  match (← get).cookies.get? name with
  | some v => return some v
  | none => durableCookie name

def removeCookie (name : String) : ProfileM Unit := do
  dropSessionCookie name
  durably (·.remove (cookieKey name))

def localGet (key : String) : ProfileM (Option String) := durably (·.get (localKey key))

def localSet (key value : String) : ProfileM Unit := durably (·.set (localKey key) value)

def localRemove (key : String) : ProfileM Unit := durably (·.remove (localKey key))

def sessionGet (key : String) : ProfileM (Option String) := do
  return (← get).session.get? key

def sessionSet (key value : String) : ProfileM Unit :=
  modify fun p ↦ { p with session := p.session.put key value }

def sessionRemove (key : String) : ProfileM Unit :=
  modify fun p ↦ { p with session := p.session.erase key }

/-- Whether an entry of the durable store is no cookie that is still live. -/
def isDead (text : String) (now : Instant) : Bool :=
  match StoredCookie.read? text with
  | some c => !isLive (some c.expiresAt) now
  | none => true

def purgeKey (key : String) : ProfileM Unit := do
  match ← durably (·.get key) with
  | some text => if isDead text (← get).now then durably (·.remove key)
  | none => return ()

def purgeKeys : List String → ProfileM Unit
  | [] => return ()
  | key :: rest => do
    purgeKey key
    purgeKeys rest

def purge : ProfileM Unit := do
  let keys ← durably (·.keys cookieStart)
  purgeKeys keys

def blank (host : Host) : Profile := ⟨host, [], []⟩

/-- Opens a profile: the dead cookies are purged, and nothing of a session is there yet. -/
def opened (host : Host) : Except StorageError Unit × Profile := purge (blank host)

end Profile

end Backoffice
