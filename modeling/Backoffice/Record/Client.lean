import Backoffice.Record.Person
import Backoffice.Record.Reference

namespace Backoffice

structure ClientOption where
  id : Id .client
  name : String
  deriving DecidableEq, Repr

namespace ClientOption

def schema : Schema := [
  .of "_id" Decoder.text.optional, .of "id" Decoder.text.optional,
  .of "name" Decoder.text.optional, .of "firstName" Decoder.text.optional,
  .of "lastName" Decoder.text.optional, .of "companyName" Decoder.text.optional]

/-- A client goes by the name of its person, else of its company, else by its own. -/
def chooseName (first last company name : Option String) : String :=
  ((Text.filled? (some (fullName (first.getD "") (last.getD "")))).orElse fun _ ↦
    (Text.filled? company).orElse fun _ ↦ Text.filled? name).getD "Client"

def decode : Decoder ClientOption := fun d ↦ do
  let row ← schema.read d
  let underscored ← row.text? "_id"
  let plain ← row.text? "id"
  let name ← row.text? "name"
  let first ← row.text? "firstName"
  let last ← row.text? "lastName"
  let company ← row.text? "companyName"
  let id ← chooseId .client underscored plain
  return ⟨id, chooseName first last company name⟩

def toJson (c : ClientOption) : Json := .obj [("_id", .str c.id.text), ("name", .str c.name)]

end ClientOption

structure UnitOption where
  id : Id .businessUnit
  name : String
  deriving DecidableEq, Repr

namespace UnitOption

def schema : Schema := [
  .of "_id" Decoder.text.optional, .of "id" Decoder.text.optional, .of "name" Decoder.text]

def decode : Decoder UnitOption := fun d ↦ do
  let row ← schema.read d
  let underscored ← row.text? "_id"
  let plain ← row.text? "id"
  let name ← row.withDefault "name" Decoder.text ""
  let id ← chooseId .businessUnit underscored plain
  return ⟨id, name⟩

def toJson (u : UnitOption) : Json := .obj [("_id", .str u.id.text), ("name", .str u.name)]

end UnitOption

end Backoffice
