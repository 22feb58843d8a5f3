import Backoffice.Json.Schema
import Backoffice.Text.Quoted

namespace Backoffice

structure Uuid where
  digits : List (Fin 16)
  length_digits : digits.length = 32
  deriving DecidableEq, Repr

namespace Uuid

def hexDigit? (c : Char) : Option (Fin 16) :=
  if '0' ≤ c ∧ c ≤ '9' then some (Fin.ofNat 16 (c.toNat - '0'.toNat))
  else if 'a' ≤ c ∧ c ≤ 'f' then some (Fin.ofNat 16 (c.toNat - 'a'.toNat + 10))
  else if 'A' ≤ c ∧ c ≤ 'F' then some (Fin.ofNat 16 (c.toNat - 'A'.toNat + 10))
  else none

def ofDigits? (cs : List Char) : Option Uuid :=
  match cs.mapM hexDigit? with
  | some ds => if h : ds.length = 32 then some ⟨ds, h⟩ else none
  | none => none

def ofHyphenated? (cs : List Char) : Option Uuid :=
  if cs.length = 36 ∧ [8, 13, 18, 23].all (fun n ↦ cs[n]? == some '-') then
    ofDigits? (cs.take 8 ++ (cs.drop 9).take 4 ++ (cs.drop 14).take 4 ++ (cs.drop 19).take 4 ++
      cs.drop 24)
  else none

/-- Reads 32 digits, or digits with hyphens: alone, between braces, or as a uniform resource
name. -/
def read? (s : String) : Option Uuid :=
  let cs := s.toList
  if cs.length = 32 then ofDigits? cs
  else if cs.length = 36 then ofHyphenated? cs
  else if cs.length = 38 ∧ cs.head? = some '\x7b' ∧ cs.getLast? = some '\x7d' then
    ofHyphenated? (cs.drop 1).dropLast
  else if cs.length = 45 ∧ (cs.take 9).map Char.toLower = "urn:uuid:".toList then
    ofHyphenated? (cs.drop 9)
  else none

def writeDigit (d : Fin 16) : Char := Nat.digitChar d.val

def write (u : Uuid) : String :=
  let cs := u.digits.map writeDigit
  String.ofList (cs.take 8 ++ ['-'] ++ (cs.drop 8).take 4 ++ ['-'] ++ (cs.drop 12).take 4 ++
    ['-'] ++ (cs.drop 16).take 4 ++ ['-'] ++ cs.drop 20)

end Uuid

abbrev DeviceId := Uuid

def DeviceId.parse (s : String) : Except DomainError DeviceId :=
  match Uuid.read? (Text.trim s) with
  | some u => .ok u
  | none => .error .malformedDeviceId

inductive DeviceType where
  | mobile
  | web
  deriving DecidableEq, Repr

namespace DeviceType

def name : DeviceType → String
  | mobile => "mobile"
  | web => "web"

def describe : DeviceType → String
  | mobile => "Mobile"
  | web => "Web"

def ofName (s : String) : Except DecodeError DeviceType :=
  if s = "mobile" then .ok mobile else if s = "web" then .ok web else .error .malformed

/-- A name alone, or as the only member of an object without content. -/
def decode : Decoder DeviceType
  | .str s => ofName s
  | .obj [(some s, .null)] => ofName s
  | _ => .error .malformed

/-- Among the members of a larger record the content may also be an empty object. -/
def decodeMember : Decoder DeviceType
  | .obj [(some s, .obj [])] => ofName s
  | d => decode d

end DeviceType

structure DeviceInfo where
  deviceId : DeviceId
  deviceName : Option String
  deviceType : DeviceType
  appVersion : String
  osVersion : Option String
  pushToken : Option String
  location : Option String
  deriving DecidableEq, Repr

namespace DeviceInfo

def decodeId : Decoder DeviceId
  | .str s =>
    match Uuid.read? s with
    | some u => .ok u
    | none => .error .malformed
  | _ => .error .malformed

def schema (deviceType : Decoder DeviceType) : Schema := [
  .required "deviceId" decodeId, .required "deviceName" Decoder.text.optional,
  .required "deviceType" deviceType, .required "appVersion" Decoder.text,
  .required "osVersion" Decoder.text.optional, .required "pushToken" Decoder.text.optional,
  .required "location" Decoder.text.optional]

def ofRow (deviceType : Decoder DeviceType) (row : Row) : Except DecodeError DeviceInfo := do
  let deviceId ← row.required "deviceId" decodeId
  let deviceName ← row.text? "deviceName"
  let type ← row.required "deviceType" deviceType
  let appVersion ← row.required "appVersion" Decoder.text
  let osVersion ← row.text? "osVersion"
  let pushToken ← row.text? "pushToken"
  let location ← row.text? "location"
  return ⟨deviceId, deviceName, type, appVersion, osVersion, pushToken, location⟩

def decode : Decoder DeviceInfo := fun d ↦ do
  let row ← (schema DeviceType.decode).read d
  ofRow DeviceType.decode row

def written (name : String) : Option String → List (String × Json)
  | some s => [(name, .str s)]
  | none => []

def members (i : DeviceInfo) : List (String × Json) :=
  [("deviceId", .str i.deviceId.write)] ++ written "deviceName" i.deviceName ++
    [("deviceType", .str i.deviceType.name), ("appVersion", .str i.appVersion)] ++
    written "osVersion" i.osVersion ++ written "pushToken" i.pushToken ++
    written "location" i.location

def toJson (i : DeviceInfo) : Json := Json.ofMembers i.members

def describeText : Option String → String
  | some s => "Some(" ++ Text.quoted s ++ ")"
  | none => "None"

def describe (i : DeviceInfo) : String :=
  "DeviceInfo \x7b device_id: DeviceId(" ++ i.deviceId.write ++ "), device_name: " ++
    describeText i.deviceName ++ ", device_type: " ++ i.deviceType.describe ++ ", app_version: " ++
    Text.quoted i.appVersion ++ ", os_version: " ++ describeText i.osVersion ++ ", push_token: " ++
    describeText i.pushToken ++ ", location: " ++ describeText i.location ++ " \x7d"

def ofHost (id : DeviceId) (hostName appVersion : String) : DeviceInfo :=
  ⟨id, some hostName, .web, appVersion, none, none, none⟩

end DeviceInfo

end Backoffice
