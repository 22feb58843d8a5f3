import Backoffice.Json.Schema
import Backoffice.Time.Instant

namespace Backoffice

open Time (Instant)

inductive ExpiryPolicy where
  | session
  | days (n : Int)
  deriving DecidableEq, Repr

namespace ExpiryPolicy

def rememberDays : Int := 30

def ofRemember (remember : Bool) : ExpiryPolicy := if remember then days rememberDays else session

def remembers : ExpiryPolicy → Bool
  | session => false
  | days _ => true

def expiresAt (p : ExpiryPolicy) (now : Instant) : Option Instant :=
  match p with
  | session => none
  | days n => some (now.addDays n)

/-- The same where every instant is in range. `none` is one out of range, `some none` is never. -/
def expiresAt? (p : ExpiryPolicy) (now : Instant) : Option (Option Instant) :=
  match p with
  | session => some none
  | days n => (now.addDays? n).map some

def decode : Decoder ExpiryPolicy
  | .str s => if s = "session" then .ok session else .error .malformed
  | .obj [(some "session", .null)] => .ok session
  | .obj [(some "days", d)] => (Decoder.int (-Nat.pow 2 63) (Nat.pow 2 63 - 1) d).map days
  | _ => .error .malformed

def toJson : ExpiryPolicy → Json
  | session => .str "session"
  | days n => .obj [("days", .int n)]

def describe : ExpiryPolicy → String
  | session => "Session"
  | days n => "Days(" ++ toString n ++ ")"

end ExpiryPolicy

def isLive (expiry : Option Instant) (now : Instant) : Bool :=
  match expiry with
  | none => true
  | some t => decide (now < t)

end Backoffice
