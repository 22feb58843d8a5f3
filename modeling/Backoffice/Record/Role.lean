import Backoffice.Record.Reference
import Backoffice.Record.Status

namespace Backoffice

structure Role where
  id : Id .role
  name : String
  description : Option String
  permissions : Json
  status : Status
  deriving Repr

namespace Role

def schema : Schema := [
  .of "_id" Decoder.text.optional, .of "id" Decoder.text.optional, .of "name" Decoder.text,
  .of "description" Decoder.text.optional, .of "permissions" Decoder.any,
  .of "status" Status.decode.optional]

def decode : Decoder Role := fun d ↦ do
  let row ← schema.read d
  let underscored ← row.text? "_id"
  let plain ← row.text? "id"
  let name ← row.withDefault "name" Decoder.text ""
  let description ← row.text? "description"
  let permissions ← row.withDefault "permissions" Decoder.any .null
  let status ← row.optional "status" Status.decode
  let id ← chooseId .role underscored plain
  return ⟨id, name, Text.filled? description, permissions, status.getD .active⟩

def toJson (r : Role) : Json :=
  .obj ([("_id", .str r.id.text)] ++
    (match r.description with | some d => [("description", .str d)] | none => []) ++
    [("name", .str r.name), ("permissions", r.permissions), ("status", r.status.toJson)])

end Role

end Backoffice
