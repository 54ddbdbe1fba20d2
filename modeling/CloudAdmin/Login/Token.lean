import CloudAdmin.Http.Message
import CloudAdmin.Saturating

/-!
# Tokens

A login yields a token that goes with every later request, in the header that its flow uses, until
it expires. A token that is about to expire is no longer used.
-/

namespace CloudAdmin

/-- How a token is attached to requests. -/
inductive TokenKind where
  | bearer
  | sessionCookie
  | authTokenHeader
deriving DecidableEq, Repr

/-- Proof of a login. -/
structure Token where
  value : String
  kind : TokenKind
  /-- When the token expires, in milliseconds. -/
  expiresAt : UInt64
deriving DecidableEq, Repr

namespace Token

/-- How long before it expires a token is given up, in milliseconds. -/
def refreshMargin : UInt64 := 60000

/-- Whether a token may still be used. -/
def isFresh (now : UInt64) (token : Token) : Bool :=
  Saturating.add now refreshMargin < token.expiresAt

/-- The header that carries a token. -/
def header (token : Token) : String × String :=
  match token.kind with
  | .bearer => ("authorization", "Bearer " ++ token.value)
  | .sessionCookie => ("cookie", "JSESSIONID=" ++ token.value)
  | .authTokenHeader => ("auth-token", token.value)

/-- A request with a token attached, in place of headers of the same name. -/
def authorize (request : Http.Request) (token : Token) : Http.Request :=
  { request with headers := Http.Headers.without token.header.1 request.headers ++ [token.header] }

/-- A token as it may be shown: without its value. -/
def describe (token : Token) : String :=
  let kind := match token.kind with
    | .bearer => "Bearer"
    | .sessionCookie => "SessionCookie"
    | .authTokenHeader => "AuthTokenHeader"
  String.join ["Token \x7b value: \"<redacted>\", kind: ", kind, ", expires_at_ms: ",
    Text.decimal token.expiresAt.toNat, " \x7d"]

end Token

end CloudAdmin
