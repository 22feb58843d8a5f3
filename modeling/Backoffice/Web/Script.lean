import Backoffice.Task.Timeline

namespace Backoffice.Web

structure Reply where
  response : Response
  delay : Nat
  drops : Bool
  deriving DecidableEq, Repr

/-- A rule applies to the requests that meet its conditions, as often as `uses` says. A condition
that is not there is met by all; `auth` may also ask for a request without the header. -/
structure Rule where
  method : Option String
  path : Option String
  query : Option String
  auth : Option (Option String)
  uses : Option Nat
  reply : Reply
  deriving DecidableEq, Repr

namespace Rule

def isOpen (r : Rule) : Bool := r.uses != some 0

def used (r : Rule) : Rule := { r with uses := r.uses.map (· - 1) }

def allows {α : Type} [DecidableEq α] (condition : Option α) (a : α) : Bool :=
  condition.all fun c ↦ c = a

def applies (rule : Rule) (r : Request) : Bool :=
  rule.isOpen && allows rule.method r.method &&
    allows rule.path (if r.url.path.isEmpty then "/" else r.url.path) &&
    allows rule.query (r.url.query.getD "") && allows rule.auth r.auth

end Rule

/-- The client waits `timeout` milliseconds for an answer; `log` has the latest request first. -/
structure Server where
  rules : List Rule
  timeout : Nat
  log : List Request

namespace Server

def notFound : Reply := ⟨⟨404, []⟩, 0, false⟩

def choose (r : Request) : List Rule → Reply × List Rule
  | [] => (notFound, [])
  | rule :: rest =>
    if rule.applies r then (rule.reply, rule.used :: rest)
    else
      let (reply, rest) := choose r rest
      (reply, rule :: rest)

/-- What comes of a reply: some statuses have no body, and nothing comes of a dropped connection
or after the timeout. -/
def deliver (timeout : Nat) (reply : Reply) : Delivery :=
  if timeout < reply.delay then .after timeout none
  else if reply.drops then .after reply.delay none
  else
    let r := reply.response
    .after reply.delay (some ⟨r.status, if r.status = 204 ∨ r.status = 304 then [] else r.body⟩)

def answer : Network Server := fun r s ↦
  let (reply, rules) := choose r s.rules
  (deliver s.timeout reply, { s with rules, log := r :: s.log })

/-- A network from which the server cannot be reached: every request fails at once. -/
def unreachable : Network Server := fun _ s ↦ (.atOnce none, s)

end Server

end Backoffice.Web
