import Backoffice.Json.Reader
import Backoffice.Json.Schema

namespace Backoffice

variable {α : Type}

/-- Decodes a text that is one JSON value. What is wrong inside the value counts before what
follows it. -/
def decodeText (dec : Decoder α) (text : String) : Except DecodeError α :=
  let (d, ended) := Json.Reader.read text
  match dec d with
  | .ok a => if ended then .ok a else .error .malformed
  | .error e => .error e

def decodeValue (dec : Decoder α) (v : Json) : Except DecodeError α := dec v.toDocument

end Backoffice
