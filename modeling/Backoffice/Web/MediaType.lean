namespace Backoffice.Web.MediaType

def isTokenChar (c : Char) : Bool :=
  c.isAlphanum || "!#$%&'*+-.^_`|~".toList.contains c

def isQuotedChar (c : Char) : Bool := 0x20 ≤ c.toNat && c.toNat != 0x7F

def afterQuoted? : List Char → Option (List Char)
  | first :: cs =>
    if !isQuotedChar first then none
    else
      match cs.dropWhile fun c ↦ isQuotedChar c && c != '"' with
      | '"' :: rest => some rest
      | _ => none
  | [] => none

def endOrMore (more : List Char → Bool) : List Char → Bool
  | [] => true
  | ';' :: cs => more cs
  | _ => false

/-- Parameters with semicolons between them: names, each with a token or a quoted text. -/
def areParameters : Nat → List Char → Bool
  | 0, _ => false
  | n + 1, cs =>
    let cs := cs.dropWhile (· == ' ')
    if cs.isEmpty then true
    else
      let name := cs.takeWhile isTokenChar
      if name.isEmpty then false
      else
        match cs.drop name.length with
        | '=' :: '"' :: rest =>
          match afterQuoted? rest with
          | some rest => endOrMore (areParameters n) (rest.dropWhile (· == ' '))
          | none => false
        | '=' :: rest =>
          let value := rest.takeWhile isTokenChar
          let rest := rest.drop value.length
          (rest.isEmpty || !value.isEmpty) && endOrMore (areParameters n) rest
        | _ => false

/-- Whether a text is a media type: a type and a subtype with a slash between them, and
parameters. The subtype may be empty where nothing follows it. -/
def isValid (s : String) : Bool :=
  let cs := s.toList
  let type := cs.takeWhile isTokenChar
  match cs.drop type.length with
  | '/' :: rest =>
    let subtype := rest.takeWhile isTokenChar
    let rest := rest.drop subtype.length
    !type.isEmpty && (rest.isEmpty || !subtype.isEmpty) &&
      endOrMore (areParameters (cs.length + 1)) rest
  | _ => false

end Backoffice.Web.MediaType
