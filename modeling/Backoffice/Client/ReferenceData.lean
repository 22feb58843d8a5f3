import Backoffice.Client.Http

namespace Backoffice

def messageOr (fallback message : String) : String :=
  if Text.isBlankText message then fallback else message

namespace Slot

variable {α : Type}

def loading (s : Slot α) : Slot α :=
  { s with list := { s.list with loading := true, error := none } }

def loaded (items : List α) (s : Slot α) : Slot α :=
  ⟨{ s.list with items, loading := false, loaded := true }, s.attempts + 1⟩

def failed (e : ClientError) (s : Slot α) : Slot α :=
  ⟨{ s.list with loading := false, error := some e }, s.attempts + 1⟩

def invalidated (s : Slot α) : Slot α := { s with list := .unloaded }

/-- The outcome that one who waited since `seen` loads had ended finds when the wait is over: the
items if they are loaded, or the error of a load that ended in the meantime. -/
def shared? (s : Slot α) (seen : Nat) : Option (Except ClientError (List α)) :=
  if s.list.loaded then some (.ok s.list.items)
  else if s.attempts = seen then none
  else s.list.error.map .error

end Slot

/-- A reference list: where a context keeps it, and how it is fetched. -/
structure ListSource (α : Type) where
  kind : ReferenceKind
  slot : Context → Slot α
  put : Slot α → Context → Context
  fetch : Action (List α)

namespace Console

/-- The data of an envelope that counts only if it is a success. No data is no items. -/
def itemsIfSuccess {α : Type} (fallback : String) (v : Envelope (List α)) :
    Except ClientError (List α) :=
  if v.success then .ok (v.data.getD []) else .error (.rejected (messageOr fallback v.message))

def dataOr {α : Type} (fallback : String) (v : Envelope α) : Except ClientError α :=
  match v.data with
  | some data => .ok data
  | none => .error (.rejected (messageOr fallback v.message))

def fetchVia {α β : Type} (route : Routes → String) (dec : Decoder α)
    (judge : Envelope α → Except ClientError β) : Action β := do
  let routes ← sure (read Context.routes)
  let envelope ← getEnvelope dec (route routes)
  match judge envelope with
  | .ok b => return b
  | .error e => throw e

end Console

namespace ListSource

open Console

variable {α : Type} (s : ListSource α)

def modify (f : Slot α → Slot α) : ConsoleM Unit :=
  Console.modify fun c ↦ s.put (f (s.slot c)) c

def load : Action (List α) := do
  sure (s.modify Slot.loading)
  match ← sure s.fetch.run with
  | .ok items =>
    sure (s.modify (Slot.loaded items))
    return items
  | .error e =>
    sure (s.modify (Slot.failed e))
    throw e

/-- The items of the list, loaded if they are not yet. One load is under way at a time. -/
def ensure : Action (List α) := do
  let slot ← sure (read s.slot)
  if slot.list.loaded then return slot.list.items
  sure (Task.acquire (Gate.list s.kind))
  let outcome ← sure (sharedOrLoaded slot.attempts).run
  sure (Task.release (Gate.list s.kind))
  match outcome with
  | .ok items => return items
  | .error e => throw e
where
  sharedOrLoaded (seen : Nat) : Action (List α) := do
    match (← sure (read s.slot)).shared? seen with
    | some (.ok items) => return items
    | some (.error e) => throw e
    | none => s.load

def snapshot : ConsoleM (ListState α) := read fun c ↦ (s.slot c).list

def invalidate : ConsoleM Unit := s.modify Slot.invalidated

def countries : ListSource Country :=
  ⟨.countries, Context.countries, fun countries c ↦ { c with countries },
    fetchVia Routes.countries (Decoder.list Country.decode)
      (itemsIfSuccess "Failed to fetch countries")⟩

def clients : ListSource ClientOption :=
  ⟨.clients, Context.clients, fun clients c ↦ { c with clients },
    fetchVia Routes.activeClients (Decoder.list ClientOption.decode)
      (dataOr "Failed to fetch clients")⟩

def roles : ListSource Role :=
  ⟨.roles, Context.roles, fun roles c ↦ { c with roles },
    fetchVia Routes.roles (Decoder.list Role.decode) (itemsIfSuccess "Failed to fetch roles")⟩

end ListSource

namespace Console

def invalidate : ReferenceKind → ConsoleM Unit
  | .countries => ListSource.countries.invalidate
  | .clients => ListSource.clients.invalidate
  | .roles => ListSource.roles.invalidate

def fetchClient (id : Id .client) : Action ClientOption :=
  fetchVia (·.client id) ClientOption.decode (dataOr "Client not found")

def searchCountries (search : String) (countries : List Country) : List Country :=
  let wanted := Text.trim search
  if wanted.isEmpty then countries else countries.filter (·.isFoundBy wanted)

/-- The country with an identifier, else the first one with a dialling code, where plus signs in
front of a code do not count. -/
def lookUpCountry (id : Option (Id .country)) (isd : String) (countries : List Country) :
    Option Country :=
  match id.bind fun i ↦ countries.find? (·.id = i) with
  | some c => some c
  | none =>
    if (Text.dropPluses isd).isEmpty then none
    else countries.find? fun c ↦ Text.dropPluses c.isdCode == Text.dropPluses isd

def loadedCountries : ConsoleM (List Country) := read fun c ↦ c.countries.list.items

def filterCountries (search : String) : ConsoleM (List Country) := do
  return searchCountries search (← loadedCountries)

def findCountry (id : Option (Id .country)) (isd : String) : ConsoleM (Option Country) := do
  return lookUpCountry id isd (← loadedCountries)

def modifyUnits (f : UnitCache → UnitCache) : ConsoleM Unit :=
  modify fun c ↦ { c with units := f c.units }

def clearUnits : Option (Id .client) → ConsoleM Unit
  | some id => modifyUnits (UnitCache.erase id)
  | none => modifyUnits fun _ ↦ []

/-- Fetches the units of a client. A blank identifier clears what is kept instead. -/
def fetchUnits (id : Id .client) : Action (List UnitOption) := do
  if id.isBlank then
    sure (clearUnits none)
    return []
  sure (modifyUnits (UnitCache.update id fun l ↦ { l with loading := true, error := none }))
  let routes ← sure (read Context.routes)
  match ← sure (getEnvelope (Decoder.list UnitOption.decode) (routes.businessUnits id)).run with
  | .ok envelope =>
    let items := envelope.data.getD []
    sure (modifyUnits
      (UnitCache.update id fun l ↦ { l with items, loading := false, loaded := true }))
    return items
  | .error e =>
    sure (modifyUnits (UnitCache.update id fun l ↦ { l with loading := false, error := some e }))
    throw e

def unitList (id : Id .client) : ConsoleM (ListState UnitOption) := read fun c ↦ c.units.list id

def units (id : Id .client) : ConsoleM (List UnitOption) := read fun c ↦ (c.units.list id).items

def unitCache : ConsoleM UnitCache := read Context.units

end Console

end Backoffice
