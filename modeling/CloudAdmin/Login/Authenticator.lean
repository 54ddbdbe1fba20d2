import CloudAdmin.Digest.Sha256
import CloudAdmin.Json.Shape
import CloudAdmin.Login.Credentials
import CloudAdmin.Login.KeyObfuscation
import CloudAdmin.Login.Token
import CloudAdmin.Text.Blank

/-!
# Logging in

An authenticator knows the credentials and the host that checks them. It builds the request that
logs in at a given time, and reads the token from the answer. Two flows salt what they send with
the time, so the time is always given from outside.
-/

namespace CloudAdmin

/-- Credentials, and the root of the host that checks them. -/
structure Authenticator where
  credentials : Credentials
  root : String
deriving DecidableEq, Repr

namespace Authenticator

/-- An authenticator for a root that may end in slashes. -/
def ofRoot (root : String) (credentials : Credentials) : Authenticator :=
  ⟨credentials, Text.dropTrailing '/' root⟩

/-- Whom the tokens of the gateway are meant for. -/
def audience : String := "https://api.zscaler.com"

/-- How long a token lives if nothing else is said, in milliseconds. -/
def defaultLifetime : UInt64 := 3600000

/-- How long a session lives, in milliseconds. -/
def sessionLifetime : UInt64 := 1800000

/-- Where a flow logs in. -/
def loginPath : LoginFlow → String
  | .oneApi => "/oauth2/v1/token"
  | .zia => "/api/v1/authenticatedSession"
  | .zpa => "/signin"
  | .zcc => "/auth/v1/login"
  | .zdx => "/v1/oauth/token"

def loginUrl (authenticator : Authenticator) : String :=
  authenticator.root ++ loginPath authenticator.credentials.flow

/-- A secret hashed together with the time in seconds. -/
def hashSecret (secret : String) (seconds : UInt64) : String :=
  Digest.Sha256.hexDigest
    (Text.Utf8.encode (secret.toList ++ ':' :: Nat.toDigits 10 seconds.toNat))

/-- The request that logs in at a time. -/
def loginRequest (now : UInt64) (authenticator : Authenticator) : Except ApiError Http.Request :=
  let request := Http.Request.bare .post authenticator.loginUrl
  match authenticator.credentials with
  | .oneApi clientId clientSecret =>
      .ok <| request.withForm [("grant_type", "client_credentials"), ("client_id", clientId),
        ("client_secret", clientSecret), ("audience", audience)]
  | .zia username password apiKey => do
      let key ← obfuscateKey apiKey now
      return request.withJson <| .ofFields [("apiKey", .string key), ("username", .string username),
        ("password", .string password), ("timestamp", .string (Text.decimal now.toNat))]
  | .zpa clientId clientSecret =>
      .ok <| request.withForm [("client_id", clientId), ("client_secret", clientSecret)]
  | .zcc apiKey secretKey =>
      .ok <| request.withJson <| .ofFields [("apiKey", .string apiKey),
        ("secretKey", .string secretKey)]
  | .zdx keyId keySecret =>
      let seconds := now / 1000
      .ok <| request.withJson <| .ofFields [("key_id", .string keyId),
        ("key_secret", .string (hashSecret keySecret seconds)), ("timestamp", .ofWord seconds)]

/-- The lifetime that an answer states, in milliseconds: a number of seconds, which may be written
as a text. Anything else counts as nothing stated. -/
def lifetime : Option Json.Value → UInt64
  | some (.number number) => statedOr number.toWord64?
  | some (.string text) => statedOr (Text.toWord64? text)
  | _ => defaultLifetime
where
  /-- Seconds in milliseconds, or the default. -/
  statedOr : Option UInt64 → UInt64
    | some seconds => Saturating.mul seconds 1000
    | none => defaultLifetime

/-- The fields of an answer with a token under a given name and its lifetime. -/
def tokenShape (name : String) : List Json.FieldShape :=
  [⟨name, .text⟩, ⟨"expires_in", .optional⟩]

/-- Read an answer of a known shape. -/
def readAnswer (shape : List Json.FieldShape) (body : String) : Except ApiError Json.Found :=
  match Json.readShape shape body with
  | .ok found => .ok found
  | .error _ => .error .malformedToken

/-- The token under a given name in an answer. -/
def readToken (name : String) (kind : TokenKind) (shape : List Json.FieldShape)
    (life : Json.Found → UInt64) (now : UInt64) (body : String) : Except ApiError Token := do
  let found ← readAnswer shape body
  match found.text? name with
  | some value => return ⟨value, kind, Saturating.add now (life found)⟩
  | none => .error .malformedToken

/-- The token in an answer that may state a lifetime. -/
def readBearer (name : String) (now : UInt64) (body : String) : Except ApiError Token :=
  readToken name .bearer (tokenShape name) (fun found => lifetime (found.optional? "expires_in"))
    now body

/-- The session in one part of a cookie. -/
def sessionInPart? (part : List Char) : Option String :=
  match Url.splitFirst '=' (Text.trimBlanks part) with
  | (name, some value) =>
      if name = "JSESSIONID".toList ∧ value ≠ [] then some (String.ofList value) else none
  | (_, none) => none

/-- The session that a cookie sets. -/
def sessionInCookie? (cookie : String) : Option String :=
  (Url.splitAll ';' cookie.toList).findSome? sessionInPart?

/-- The session that a response sets. -/
def session? (response : Http.Response) : Option String :=
  (response.headerValues "set-cookie").findSome? sessionInCookie?

/-- The token that the answer to a login brings. -/
def readLogin (response : Http.Response) (now : UInt64) (authenticator : Authenticator) :
    Except ApiError Token :=
  let flow := authenticator.credentials.flow
  if !response.isSuccess then .error (.loginRefused flow response.status response.body)
  else
    match flow with
    | .oneApi | .zpa => readBearer "access_token" now response.body
    | .zdx => readBearer "token" now response.body
    | .zcc =>
        readToken "jwtToken" .authTokenHeader [⟨"jwtToken", .text⟩] (fun _ => defaultLifetime) now
          response.body
    | .zia =>
        match session? response with
        | some session => .ok ⟨session, .sessionCookie, Saturating.add now sessionLifetime⟩
        | none => .error .noSessionCookie

/-- The request that ends a session on its host. Only one flow has sessions. -/
def logoutRequest? (token : Token) (authenticator : Authenticator) : Option Http.Request :=
  match authenticator.credentials.flow with
  | .zia => some (token.authorize (Http.Request.bare .delete authenticator.loginUrl))
  | _ => none

end Authenticator

end CloudAdmin
