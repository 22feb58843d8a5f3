import Backoffice.Web.Host

namespace Backoffice.Web

structure Url where
  scheme : String
  host : Option String
  portNumber : Option Nat
  path : String
  query : Option String
  deriving DecidableEq, Repr

namespace Url

inductive Kind where
  | web
  | file
  | other
  deriving DecidableEq, Repr

def Kind.ofScheme (scheme : List Char) : Kind :=
  if ["http", "https", "ws", "wss", "ftp"].contains (String.ofList scheme) then .web
  else if scheme == ['f', 'i', 'l', 'e'] then .file
  else .other

def Kind.isSpecial (k : Kind) : Bool := k != .other

def Kind.isSlash (k : Kind) (c : Char) : Bool := c == '/' || (c == '\\' && k.isSpecial)

/-- Drops controls and spaces around a text, and line breaks and tabs anywhere. -/
def clean (s : String) : List Char :=
  let outer (c : Char) : Bool := c.toNat ≤ 0x20
  let inner (c : Char) : Bool := c != '\t' && c != '\n' && c != '\r'
  (Text.dropTrailing outer (s.toList.dropWhile outer)).filter inner

def schemeChar (c : Char) : Bool := c.isAlphanum || c == '+' || c == '-' || c == '.'

def scheme? (cs : List Char) : Option (List Char × List Char) :=
  match cs with
  | c :: _ =>
    if c.isAlpha then
      match cs.dropWhile schemeChar with
      | ':' :: rest => some ((cs.takeWhile schemeChar).map Char.toLower, rest)
      | _ => none
    else none
  | [] => none

def endsAuthority (k : Kind) (c : Char) : Bool := k.isSlash c || c == '?' || c == '#'

/-- An authority without what stands before its last at sign, and whether there was one. The user and password
that stand there are dropped: the basic authorization header that an HTTP library makes of them is no part of a
request here. -/
def dropUser (cs : List Char) : List Char × Bool :=
  let host := (cs.reverse.takeWhile (· != '@')).reverse
  (host, host.length < cs.length)

def splitHost (inside : Bool) : List Char → List Char × Option (List Char)
  | [] => ([], none)
  | c :: cs =>
    if c == ':' && !inside then ([], some cs)
    else
      let inside := if c == '[' then true else if c == ']' then false else inside
      let (host, number) := splitHost inside cs
      (c :: host, number)

def portNumber? : Option (List Char) → Option (Option Nat)
  | none => some none
  | some [] => some none
  | some cs =>
    if cs.all Char.isDigit then
      match digitsValue? 10 cs with
      | some n => if n ≤ 65535 then some (some n) else none
      | none => none
    else none

def authority? (k : Kind) (cs : List Char) : Option (Option String × Option Nat) := do
  let (rest, hasUser) := dropUser cs
  let (name, numberText) := splitHost false rest
  let portNumber ← portNumber? numberText
  if name.isEmpty then
    if k == .web || hasUser || numberText.isSome then none else some (none, none)
  else
    let host ← if k.isSpecial then webHost? name else opaqueHost? name
    some (some (String.ofList host), portNumber)

def isSingleDot (seg : List Char) : Bool :=
  seg == ['.'] || seg.map Char.toLower == ['%', '2', 'e']

def isDoubleDot (seg : List Char) : Bool :=
  let s := seg.map Char.toLower
  [['.', '.'], ['.', '%', '2', 'e'], ['%', '2', 'e', '.'],
    ['%', '2', 'e', '%', '2', 'e']].contains s

/-- Goes through the segments of a path with those kept so far, the last one first. A dot segment
at the end leaves an empty segment there. -/
def resolve (kept : List (List Char)) : List (List Char) → List (List Char)
  | [] => kept.reverse
  | [s] =>
    if isDoubleDot s then ([] :: kept.tail).reverse
    else if isSingleDot s then ([] :: kept).reverse
    else (s :: kept).reverse
  | s :: rest =>
    if isDoubleDot s then resolve kept.tail rest
    else if isSingleDot s then resolve kept rest
    else resolve (s :: kept) rest

def pathOf (k : Kind) (cs : List Char) : String :=
  let cs := if k.isSpecial then cs.map fun c ↦ if c == '\\' then '/' else c else cs
  let cs := match cs with | '/' :: rest => rest | cs => cs
  let segments := resolve [] (splitOn '/' cs)
  String.ofList (segments.flatMap fun s ↦ '/' :: encodeUnless inPath s)

def splitTail (cs : List Char) : List Char × Option (List Char) :=
  let cs := cs.takeWhile (· != '#')
  match cs.dropWhile (· != '?') with
  | _ :: q => (cs.takeWhile (· != '?'), some q)
  | [] => (cs, none)

def queryOf (k : Kind) (cs : List Char) : String :=
  String.ofList (encodeUnless (if k.isSpecial then inWebQuery else inQuery) cs)

def tailOf (k : Kind) (scheme : List Char) (host : Option String) (portNumber : Option Nat)
    (cs : List Char) : Url :=
  let (path, query) := splitTail cs
  let path := if path.isEmpty && !k.isSpecial then "" else pathOf k path
  ⟨String.ofList scheme, host, portNumber, path, query.map (queryOf k)⟩

def afterSlashes? (k : Kind) (scheme cs : List Char) : Option Url := do
  let before := cs.takeWhile fun c ↦ !endsAuthority k c
  let (host, portNumber) ← authority? k before
  return tailOf k scheme host portNumber (cs.drop before.length)

def parse? (s : String) : Option Url := do
  let (scheme, rest) ← scheme? (clean s)
  let k := Kind.ofScheme scheme
  match k with
  | .web => afterSlashes? k scheme (rest.dropWhile k.isSlash)
  | .file =>
    match rest with
    | a :: b :: more =>
      if k.isSlash a && k.isSlash b then afterSlashes? k scheme more
      else return tailOf k scheme none none rest
    | _ => return tailOf k scheme none none rest
  | .other =>
    match rest with
    | '/' :: '/' :: more => afterSlashes? k scheme more
    | '/' :: _ => return tailOf k scheme none none rest
    | _ =>
      let (path, query) := splitTail rest
      return ⟨String.ofList scheme, none, none,
        String.ofList (encodeUnless (fun c ↦ 0x1F < c.toNat) path), query.map (queryOf k)⟩

def target (u : Url) : String :=
  (if u.path.isEmpty then "/" else u.path) ++
    match u.query with
    | some q => "?" ++ q
    | none => ""

/-- The address with more names and values in its query. A query is there afterwards even when
there are none. -/
def withForm (u : Url) (fields : List (String × String)) : Url :=
  let more := String.ofList (formQuery fields)
  let query :=
    match u.query with
    | none => more
    | some q => if q.isEmpty || more.isEmpty then q ++ more else q ++ "&" ++ more
  { u with query := some query }

def isHttp (u : Url) : Bool := (u.scheme == "http" || u.scheme == "https") && u.host.isSome

def write (u : Url) : String :=
  u.scheme ++ ":" ++
    (match u.host with
    | some h => "//" ++ h ++ (match u.portNumber with | some p => ":" ++ toString p | none => "")
    | none => "") ++
    u.path ++ (match u.query with | some q => "?" ++ q | none => "")

end Url

end Backoffice.Web
