import Backoffice.Json.Schema

namespace Backoffice

structure Reference (e : Entity) where
  id : Id e
  name : Option String
  deriving DecidableEq, Repr

/-- The identifier that counts, of the two names it may have. -/
def chooseId? (underscored plain : Option String) : Option String :=
  (Text.filled? underscored).orElse fun _ ↦ Text.filled? plain

def chooseId (e : Entity) (underscored plain : Option String) : Except DecodeError (Id e) :=
  match chooseId? underscored plain with
  | some s => .ok ⟨s⟩
  | none => .error (.unidentified e)

/-- An embedded reference: identifier and name, each present only if it is not blank. -/
structure Embedded where
  id : Option String
  name : Option String
  deriving DecidableEq, Repr

namespace Embedded

def schema : Schema := [
  .of "_id" Decoder.text.optional, .of "id" Decoder.text.optional,
  .of "name" Decoder.text.optional]

def decodeForm : Decoder Embedded
  | .str s => .ok ⟨Text.filled? (some s), none⟩
  | d => do
    let row ← schema.readObject d
    let underscored ← row.text? "_id"
    let plain ← row.text? "id"
    let name ← row.text? "name"
    return ⟨chooseId? underscored plain, Text.filled? name⟩

def decode : Decoder Embedded := Decoder.whole decodeForm

end Embedded

namespace Reference

variable {e : Entity}

/-- The flat identifier wins; the embedded name stays only with its own identifier. -/
def merge (flat : Option String) (embedded : Option Embedded) : Option (Reference e) :=
  let name := embedded.bind Embedded.name
  match Text.filled? flat, embedded.bind Embedded.id with
  | some f, some i => some ⟨⟨f⟩, if f = i then name else none⟩
  | some f, none => some ⟨⟨f⟩, none⟩
  | none, some i => some ⟨⟨i⟩, name⟩
  | none, none => none

def toJson (r : Reference e) : Json :=
  .obj (("_id", .str r.id.text) ::
    match r.name with
    | some n => [("name", .str n)]
    | none => [])

end Reference

end Backoffice
