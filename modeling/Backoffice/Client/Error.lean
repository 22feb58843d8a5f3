import Backoffice.Identifier
import Backoffice.Json.Schema
import Backoffice.Storage.Durable

namespace Backoffice

inductive Unexpected where
  | undecodable (e : DecodeError)
  | noUser
  | noCurrentUser
  | noAccessToken
  deriving DecidableEq, Repr

def Unexpected.message : Unexpected → String
  | undecodable .malformed => "malformed body"
  | undecodable (.unidentified e) => (DomainError.unidentified e).message
  | noUser => "user response carried no user"
  | noCurrentUser => "current-user response carried no user"
  | noAccessToken => "auth response carried no access token"

inductive RefreshFailure where
  | noToken
  | unanswered
  | refused (status : Nat)
  | unexpected (u : Unexpected)
  deriving DecidableEq, Repr

def RefreshFailure.message : RefreshFailure → String
  | noToken => "no refresh token available"
  | unanswered => "no answer"
  | refused status => "refresh rejected with status " ++ toString status
  | unexpected u => u.message

inductive ClientError where
  | transport
  | api (status : Nat) (message : String)
  | refreshFailed (why : RefreshFailure)
  | rejected (message : String)
  | decode (why : Unexpected)
  | invalidRequest
  | notAuthenticated
  | storage (e : StorageError)
  | domain (e : DomainError)
  deriving DecidableEq, Repr

namespace ClientError

def message : ClientError → String
  | transport => "network error: no answer"
  | api status m => "API error (" ++ toString status ++ "): " ++ m
  | refreshFailed why => "session expired: " ++ why.message
  | rejected m => m
  | decode why => "unexpected response: " ++ why.message
  | invalidRequest => "invalid request: it cannot be sent"
  | notAuthenticated => "not signed in"
  | storage e => e.message
  | domain e => e.message

def isSessionExpired : ClientError → Bool
  | refreshFailed _ => true
  | _ => false

end ClientError

end Backoffice
