import Backoffice.Record.User

namespace Backoffice

structure Session where
  userId : Id .user
  displayName : String
  email : String
  role : Option (Reference .role)
  avatar : Option Image
  deriving DecidableEq, Repr

def Session.ofUser (u : AdminUser) : Session := ⟨u.id, u.displayName, u.email, u.role, u.image⟩

def Session.toJson (s : Session) : Json :=
  .obj [
    ("avatar", Json.ofOption Image.toJson s.avatar), ("display_name", .str s.displayName),
    ("email", .str s.email), ("role", Json.ofOption Reference.toJson s.role),
    ("user_id", .str s.userId.text)]

/-- A client boots, loads while a login is under way, and settles signed in or signed out. -/
inductive SessionStatus where
  | bootstrapping
  | loading
  | authenticated (s : Session)
  | unauthenticated
  deriving DecidableEq, Repr

namespace SessionStatus

def session? : SessionStatus → Option Session
  | authenticated s => some s
  | _ => none

def isAuthenticated (s : SessionStatus) : Bool := s.session?.isSome

def isSettled : SessionStatus → Bool
  | authenticated _ => true
  | unauthenticated => true
  | _ => false

def name : SessionStatus → String
  | bootstrapping => "bootstrapping"
  | loading => "loading"
  | authenticated _ => "authenticated"
  | unauthenticated => "unauthenticated"

end SessionStatus

end Backoffice
