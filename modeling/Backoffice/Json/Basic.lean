import Backoffice.Json.Double

namespace Backoffice

inductive Number where
  | int (n : Int)
  | real (d : Double)
  deriving DecidableEq, Repr

def Number.toDouble : Number → Double
  | .int n => .ofInt n
  | .real d => d

inductive Json where
  | null
  | bool (b : Bool)
  | num (n : Number)
  | str (s : String)
  | arr (items : List Json)
  | obj (members : List (String × Json))
  deriving Inhabited, Repr

namespace Json

def put (name : String) (v : Json) : List (String × Json) → List (String × Json)
  | [] => [(name, v)]
  | (k, w) :: rest =>
    if name == k then (k, v) :: rest
    else if name < k then (name, v) :: (k, w) :: rest
    else (k, w) :: put name v rest

def ofMembers (members : List (String × Json)) : Json :=
  .obj (members.foldl (fun acc m ↦ put m.1 m.2 acc) [])

def members : Json → List (String × Json)
  | .obj members => members
  | _ => []

def overlay (v patch : Json) : Json :=
  match v with
  | .obj members => .obj (patch.members.foldl (fun acc m ↦ put m.1 m.2 acc) members)
  | v => v

def member? (name : String) : Json → Option Json
  | .obj members => members.lookup name
  | _ => none

def str? : Json → Option String
  | .str s => some s
  | _ => none

def isObject : Json → Bool
  | .obj _ => true
  | _ => false

def int (n : Int) : Json := .num (.int n)

def ofOption {α : Type} (f : α → Json) : Option α → Json
  | none => .null
  | some a => f a

end Json

end Backoffice
