import Backoffice.Identifier
import Backoffice.Json.Document

namespace Backoffice

inductive DecodeError where
  | malformed
  | unidentified (e : Entity)
  deriving DecidableEq, Repr

abbrev Decoder (α : Type) := Document → Except DecodeError α

namespace Decoder

variable {α : Type}

def text : Decoder String
  | .str s => .ok s
  | _ => .error .malformed

def bool : Decoder Bool
  | .bool b => .ok b
  | _ => .error .malformed

def double : Decoder Double
  | .num n => .ok n.toDouble
  | _ => .error .malformed

def int (least greatest : Int) : Decoder Int
  | .num (.int n) => if least ≤ n ∧ n ≤ greatest then .ok n else .error .malformed
  | _ => .error .malformed

def count (bits : Nat) : Decoder Nat := fun d ↦ (int 0 (Nat.pow 2 bits - 1) d).map Int.toNat

def any : Decoder Json := fun d ↦
  match d.value? with
  | some v => .ok v
  | none => .error .malformed

def optional (dec : Decoder α) : Decoder (Option α)
  | .null => .ok none
  | d => (dec d).map some

def items (dec : Decoder α) : List Document → Except DecodeError (List α)
  | [] => .ok []
  | d :: ds => do
    let a ← dec d
    let as ← items dec ds
    return a :: as

def list (dec : Decoder α) : Decoder (List α)
  | .arr ds => items dec ds
  | _ => .error .malformed

def whole (dec : Decoder α) : Decoder α := fun d ↦
  if d.value?.isSome then dec d else .error .malformed

end Decoder

/-- A member that a schema knows. `omittable` says that it may be left out at the end of the list
form of the record. -/
structure Field where
  name : String
  check : Document → Except DecodeError Unit
  omittable : Bool

def Field.of {α : Type} (name : String) (dec : Decoder α) : Field :=
  ⟨name, fun d ↦ (dec d).map fun _ ↦ (), true⟩

def Field.required {α : Type} (name : String) (dec : Decoder α) : Field :=
  ⟨name, fun d ↦ (dec d).map fun _ ↦ (), false⟩

abbrev Row := List (String × Document)

abbrev Schema := List Field

namespace Schema

/-- Reads members in the order of the document, with those read before in `row`. A known member
occurs once; an unknown one is passed over. -/
def readMembers (schema : Schema) (row : Row) :
    List (Option String × Document) → Except DecodeError Row
  | [] => .ok row
  | (none, _) :: _ => .error .malformed
  | (some name, d) :: rest =>
    match schema.find? (·.name == name) with
    | some f =>
      if (row.lookup name).isSome then .error .malformed
      else do
        f.check d
        readMembers schema ((name, d) :: row) rest
    | none => if d.sound then readMembers schema row rest else .error .malformed

def readItems : Schema → List Document → Except DecodeError Row
  | [], [] => .ok []
  | [], _ :: _ => .error .malformed
  | f :: fs, [] => if f.omittable then readItems fs [] else .error .malformed
  | f :: fs, d :: ds => do
    f.check d
    let row ← readItems fs ds
    return (f.name, d) :: row

def readObject (schema : Schema) : Document → Except DecodeError Row
  | .obj members => schema.readMembers [] members
  | _ => .error .malformed

def read (schema : Schema) : Document → Except DecodeError Row
  | .obj members => schema.readMembers [] members
  | .arr items => schema.readItems items
  | _ => .error .malformed

end Schema

namespace Row

variable {α : Type}

def required (row : Row) (name : String) (dec : Decoder α) : Except DecodeError α :=
  match row.lookup name with
  | some d => dec d
  | none => .error .malformed

def withDefault (row : Row) (name : String) (dec : Decoder α) (default : α) :
    Except DecodeError α :=
  match row.lookup name with
  | some d => dec d
  | none => .ok default

def optional (row : Row) (name : String) (dec : Decoder α) : Except DecodeError (Option α) :=
  row.withDefault name dec.optional none

def text? (row : Row) (name : String) : Except DecodeError (Option String) :=
  row.optional name Decoder.text

end Row

end Backoffice
