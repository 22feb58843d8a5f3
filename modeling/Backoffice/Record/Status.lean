import Backoffice.Json.Schema
import Backoffice.Text.Case

namespace Backoffice

structure Status where
  code : String
  label : String
  deriving DecidableEq, Repr

namespace Status

def ofCode (code : String) : Status := ⟨code, Text.capitalize code⟩

def active : Status := ofCode "active"

def isActive (s : Status) : Bool := Text.lowerAscii s.code == "active"

def schema : Schema := [.of "code" Decoder.text, .of "label" Decoder.text.optional]

def decodeForm : Decoder Status
  | .str s => .ok (ofCode s)
  | d => do
    let row ← schema.readObject d
    let code ← row.required "code" Decoder.text
    let label ← row.text? "label"
    return match Text.filled? label with
      | some l => ⟨code, l⟩
      | none => ofCode code

/-- A status is a code alone or an object. -/
def decode : Decoder Status := Decoder.whole decodeForm

def toJson (s : Status) : Json := .obj [("code", .str s.code), ("label", .str s.label)]

end Status

end Backoffice
