import Backoffice.Text.Case
import Backoffice.Text.Blank
import Backoffice.Web.Url

namespace Backoffice

inductive LogFormat where
  | json
  | pretty
  deriving DecidableEq, Repr

namespace LogFormat

def parse (s : String) : Except String LogFormat :=
  let name := Text.lowerAscii (Text.trim s)
  if name = "json" then .ok json
  else if name = "pretty" ∨ name = "text" then .ok pretty
  else .error name

def name : LogFormat → String
  | json => "json"
  | pretty => "pretty"

def unknownMessage (name : String) : String :=
  "unknown log format '" ++ name ++ "' (expected 'json' or 'pretty')"

end LogFormat

structure Config where
  apiUrl : String
  appVersion : String
  timeoutSeconds : Nat
  storagePath : Option String
  logFormat : LogFormat
  deriving DecidableEq, Repr

inductive ConfigError where
  | invalidApiUrl
  | invalidTimeout (text : String)
  | invalidLogFormat (name : String)
  deriving DecidableEq, Repr

def ConfigError.message : ConfigError → String
  | invalidApiUrl => "CONSOLE_API_URL is not a valid URL"
  | invalidTimeout text =>
    "CONSOLE_REQUEST_TIMEOUT_SECS must be a positive integer, got '" ++ text ++ "'"
  | invalidLogFormat name => LogFormat.unknownMessage name

namespace Config

def defaultApiUrl : String := "http://localhost:3000/api"

def defaultVersion : String := "0.1.0"

def defaultTimeout : Nat := 30

/-- A base address without blanks around it and without slashes at its end. -/
def normalizeBase (s : String) : String :=
  String.ofList (Text.dropTrailing (· == '/') (Text.trimChars s.toList))

def ofBase (url : String) : Config :=
  ⟨normalizeBase url, defaultVersion, defaultTimeout, none, .json⟩

def naturalOf? (s : String) : Option Nat :=
  let ds := match s.toList with | '+' :: cs => cs | cs => cs
  if ds.isEmpty then none else Web.digitsValue? 10 ds

/-- A timeout in whole seconds: a positive number below `2 ^ 64`. -/
def timeoutOf (text : String) : Except ConfigError Nat :=
  match naturalOf? (Text.trim text) with
  | some n => if 0 < n ∧ n < Nat.pow 2 64 then .ok n else .error (.invalidTimeout text)
  | none => .error (.invalidTimeout text)

def given? (lookup : String → Option String) (name : String) : Option String :=
  match lookup name with
  | some s => if Text.isBlankText s then none else some s
  | none => none

/-- Reads the settings in their order, so that the first faulty one is reported. The address is
checked as it is written, before anything is taken off it. -/
def ofLookup (lookup : String → Option String) : Except ConfigError Config := do
  let url := (lookup "CONSOLE_API_URL").getD defaultApiUrl
  if (Web.Url.parse? url).isNone then throw .invalidApiUrl
  let base := ofBase url
  let version := (given? lookup "CONSOLE_APP_VERSION").map Text.trim
  let timeout ← match lookup "CONSOLE_REQUEST_TIMEOUT_SECS" with
    | some text => timeoutOf text
    | none => pure base.timeoutSeconds
  let format ← match lookup "CONSOLE_LOG_FORMAT" with
    | some text => (LogFormat.parse text).mapError .invalidLogFormat
    | none => pure base.logFormat
  return {
    base with
    appVersion := version.getD base.appVersion
    timeoutSeconds := timeout
    storagePath := given? lookup "CONSOLE_STORAGE_PATH"
    logFormat := format }

def storageFile (c : Config) (dataDirectory : String) : String :=
  c.storagePath.getD (dataDirectory ++ "/console-admin/storage.db")

end Config

end Backoffice
