import Backoffice.Json.Schema

namespace Backoffice

structure Pagination where
  currentPage : Nat
  totalPages : Nat
  totalRecords : Nat
  deriving DecidableEq, Repr

namespace Pagination

def schema : Schema := [
  .of "currentPage" (Decoder.count 32), .of "totalPages" (Decoder.count 32),
  .of "totalRecords" (Decoder.count 64)]

def decode : Decoder Pagination := fun d ↦ do
  let row ← schema.read d
  let currentPage ← row.withDefault "currentPage" (Decoder.count 32) 0
  let totalPages ← row.withDefault "totalPages" (Decoder.count 32) 0
  let totalRecords ← row.withDefault "totalRecords" (Decoder.count 64) 0
  return ⟨currentPage, totalPages, totalRecords⟩

def toJson (p : Pagination) : Json :=
  .obj [("currentPage", .int p.currentPage), ("totalPages", .int p.totalPages),
    ("totalRecords", .int p.totalRecords)]

end Pagination

structure Envelope (α : Type) where
  success : Bool
  message : String
  data : Option α
  pagination : Option Pagination
  deriving DecidableEq, Repr

namespace Envelope

variable {α : Type}

def schema (dec : Decoder α) : Schema := [
  .of "success" Decoder.bool, .of "message" Decoder.text, .required "data" dec.optional,
  .of "pagination" Pagination.decode.optional]

def decode (dec : Decoder α) : Decoder (Envelope α) := fun d ↦ do
  let row ← (schema dec).read d
  let success ← row.withDefault "success" Decoder.bool false
  let message ← row.withDefault "message" Decoder.text ""
  let data ← row.optional "data" dec
  let pagination ← row.optional "pagination" Pagination.decode
  return ⟨success, message, data, pagination⟩

def empty : Envelope α := ⟨true, "", none, none⟩

/-- The data of a success, or the backend's message. -/
def result (v : Envelope α) : Except String (Option α) :=
  if v.success then .ok v.data else .error v.message

def toJson (f : α → Json) (v : Envelope α) : Json :=
  .obj ([("data", Json.ofOption f v.data), ("message", .str v.message)] ++
    (match v.pagination with | some p => [("pagination", p.toJson)] | none => []) ++
    [("success", .bool v.success)])

end Envelope

end Backoffice
