import Backoffice.Record.Reference
import Backoffice.Text.Case
import Backoffice.Text.Search

namespace Backoffice

structure Country where
  id : Id .country
  name : String
  isdCode : String
  alpha2 : Option String
  flag : String
  deriving DecidableEq, Repr

namespace Country

def schema : Schema := [
  .of "_id" Decoder.text.optional, .of "id" Decoder.text.optional, .of "name" Decoder.text,
  .of "isdCode" Decoder.text, .of "alpha2" Decoder.text.optional,
  .of "flag" Decoder.text.optional]

def decode : Decoder Country := fun d ↦ do
  let row ← schema.read d
  let underscored ← row.text? "_id"
  let plain ← row.text? "id"
  let name ← row.withDefault "name" Decoder.text ""
  let isdCode ← row.withDefault "isdCode" Decoder.text ""
  let alpha2 ← row.text? "alpha2"
  let flag ← row.text? "flag"
  let id ← chooseId .country underscored plain
  return ⟨id, name, isdCode, Text.filled? alpha2, flag.getD ""⟩

def toJson (c : Country) : Json :=
  .obj ([("_id", .str c.id.text)] ++
    (match c.alpha2 with | some a => [("alpha2", .str a)] | none => []) ++
    [("flag", .str c.flag), ("isdCode", .str c.isdCode), ("name", .str c.name)])

/-- Whether a search finds the country: by a part of its name in any case, or by a part of its
dialling code. -/
def isFoundBy (c : Country) (search : String) : Bool :=
  Text.contains (Text.lower c.name) (Text.lower search) || Text.contains c.isdCode search

def selectValue (c : Country) : String := c.isdCode ++ "|" ++ c.id.text

end Country

end Backoffice
