import Backoffice.Json.Basic

namespace Backoffice

inductive Document where
  | null
  | bool (b : Bool)
  | num (n : Number)
  | str (s : String)
  | arr (items : List Document)
  | obj (members : List (Option String × Document))
  /-- Well written, but without a value: half a surrogate pair, a number beyond the doubles, lists
  nested too deep. It may be passed over, not read. -/
  | unreadable
  /-- Here the text is malformed; nothing after it is known. -/
  | broken
  deriving Inhabited, Repr

namespace Document

mutual

def sound : Document → Bool
  | .broken => false
  | .arr items => soundItems items
  | .obj members => soundMembers members
  | _ => true

def soundItems : List Document → Bool
  | [] => true
  | d :: ds => sound d && soundItems ds

def soundMembers : List (Option String × Document) → Bool
  | [] => true
  | (_, d) :: ms => sound d && soundMembers ms

end

mutual

/-- The value of a document that has one. Of members with one name the last counts. -/
def value? : Document → Option Json
  | .null => some .null
  | .bool b => some (.bool b)
  | .num n => some (.num n)
  | .str s => some (.str s)
  | .arr items => (values? items).map .arr
  | .obj members => (members? members).map Json.ofMembers
  | .unreadable => none
  | .broken => none

def values? : List Document → Option (List Json)
  | [] => some []
  | d :: ds =>
    match value? d, values? ds with
    | some v, some vs => some (v :: vs)
    | _, _ => none

def members? : List (Option String × Document) → Option (List (String × Json))
  | [] => some []
  | (k, d) :: ms =>
    match k, value? d, members? ms with
    | some k, some v, some vs => some ((k, v) :: vs)
    | _, _, _ => none

end

end Document

namespace Json

mutual

def toDocument : Json → Document
  | .null => .null
  | .bool b => .bool b
  | .num n => .num n
  | .str s => .str s
  | .arr items => .arr (toDocuments items)
  | .obj members => .obj (toMembers members)

def toDocuments : List Json → List Document
  | [] => []
  | v :: vs => toDocument v :: toDocuments vs

def toMembers : List (String × Json) → List (Option String × Document)
  | [] => []
  | (k, v) :: ms => (some k, toDocument v) :: toMembers ms

end

end Json

end Backoffice
