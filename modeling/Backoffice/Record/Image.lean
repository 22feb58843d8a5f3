import Backoffice.Json.Schema

namespace Backoffice

structure Image where
  fileName : Option String
  width : Option Double
  height : Option Double
  aspectRatio : Option String
  mimeType : Option String
  deriving DecidableEq, Repr

namespace Image

def named (fileName : String) : Image := ⟨some fileName, none, none, none, none⟩

def schema : Schema := [
  .of "fileName" Decoder.text.optional, .of "width" Decoder.double.optional,
  .of "height" Decoder.double.optional, .of "aspectRatio" Decoder.text.optional,
  .of "mimeType" Decoder.text.optional]

def decode : Decoder Image := fun d ↦ do
  let row ← schema.read d
  let fileName ← row.text? "fileName"
  let width ← row.optional "width" Decoder.double
  let height ← row.optional "height" Decoder.double
  let aspectRatio ← row.text? "aspectRatio"
  let mimeType ← row.text? "mimeType"
  return ⟨fileName, width, height, aspectRatio, mimeType⟩

def decodeForm : Decoder Image
  | .str s => .ok (named s)
  | d => decode d

/-- Inside a record an image may also be a file name alone. -/
def decodeEmbedded : Decoder Image := Decoder.whole decodeForm

def toJson (i : Image) : Json :=
  .obj [
    ("aspectRatio", Json.ofOption .str i.aspectRatio), ("fileName", Json.ofOption .str i.fileName),
    ("height", Json.ofOption (fun d ↦ .num (.real d)) i.height),
    ("mimeType", Json.ofOption .str i.mimeType),
    ("width", Json.ofOption (fun d ↦ .num (.real d)) i.width)]

end Image

end Backoffice
