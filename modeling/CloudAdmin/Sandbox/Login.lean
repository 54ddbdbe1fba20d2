import CloudAdmin.Http.MediaType
import CloudAdmin.Json.Shape
import CloudAdmin.Sandbox.Message
import CloudAdmin.Sandbox.State
import CloudAdmin.Text.Blank

/-!
# Logging in to a sandbox

A sandbox knows one customer, who can log in by every flow. Forms and JSON bodies are checked for
their form before anything else: a body of the wrong content type is refused, and so is JSON that is
not well formed or lacks a field. A login that is refused changes nothing.
-/

namespace CloudAdmin.Sandbox

/-- The id of the customer. -/
def clientId : String := "test-client"

/-- The secret of the customer. -/
def clientSecret : String := "test-secret"

/-- The name of the customer's administrator. -/
def username : String := "admin@acme.com"

/-- The password of the customer's administrator. -/
def password : String := "password"

/-- How long a token is good, in seconds. -/
def tokenLifetime : UInt64 := 3600

/-- What handles a request. -/
abbrev Handler := Request → State → Reply × State

/-- An answer that changes nothing. -/
def unchanged (reply : Reply) (state : State) : Reply × State :=
  (reply, state)

/-- Issue a token and answer with it if a login is good, and refuse it otherwise. -/
def answerLogin (supply : TokenSupply) (isGood : Bool) (welcome : String → Reply)
    (rejection : Reply) (state : State) : Reply × State :=
  if isGood then
    let (token, state') := state.issue supply
    (welcome token, state')
  else (rejection, state)

def formFields (request : Request) : Except Reply Url.Pairs :=
  match request.header? "content-type" with
  | some type =>
      if Http.formType.toList.isPrefixOf type.toList then .ok (Url.parseForm request.body.toList)
      else .error (.refusal 415)
  | none => .error (.refusal 415)

def jsonFields (shape : List Json.FieldShape) (request : Request) : Except Reply Json.Found :=
  match (request.header? "content-type").bind fun type => Http.MediaType.parse? type.toList with
  | some mediaType =>
      if mediaType.isJson then
        match Json.readShape shape request.body with
        | .ok found => .ok found
        | .error .unreadable => .error (.refusal 400)
        | .error .misfit => .error (.refusal 422)
      else .error (.refusal 415)
  | none => .error (.refusal 415)

/-- Handle a request whose body could be read. -/
def withFields {Fields : Type} (fields : Except Reply Fields)
    (handle : Fields → State → Reply × State) (state : State) : Reply × State :=
  match fields with
  | .ok found => handle found state
  | .error reply => (reply, state)

/-- Whether a form holds the customer's id and secret. -/
def holdsClient (form : Url.Pairs) : Bool :=
  Query.lastValue? "client_id" form == some clientId &&
    Query.lastValue? "client_secret" form == some clientSecret

def gatewayLogin (supply : TokenSupply) : Handler := fun request =>
  withFields (formFields request) fun form =>
    answerLogin supply
      (Query.lastValue? "grant_type" form == some "client_credentials" && holdsClient form)
      (fun token => .fields [("access_token", .string token), ("token_type", .string "Bearer"),
        ("expires_in", .ofWord tokenLifetime)])
      (.json 401 (.ofFields [("error", .string "invalid_client")]))

def zpaLogin (supply : TokenSupply) : Handler := fun request =>
  withFields (formFields request) fun form =>
    answerLogin supply (holdsClient form)
      (fun token => .fields [("token_type", .string "Bearer"), ("access_token", .string token),
        ("expires_in", .string (Text.decimal tokenLifetime.toNat))])
      (.json 401 (.ofFields [("id", .string "invalid.credentials")]))

/-- What logs in to ZIA. -/
def ziaShape : List Json.FieldShape :=
  [⟨"apiKey", .text⟩, ⟨"username", .text⟩, ⟨"password", .text⟩, ⟨"timestamp", .text⟩]

/-- Whether the fields log in to ZIA. The key has to have the right length only. -/
def isZiaLogin (found : Json.Found) : Bool :=
  found.text? "username" == some username && found.text? "password" == some password &&
    (found.text? "apiKey").any (·.utf8ByteSize == 12) &&
    (found.text? "timestamp").any fun timestamp => (Text.toWord64? timestamp).isSome

/-- The cookie that carries a session. -/
def sessionCookie (token : String) : String :=
  String.join ["JSESSIONID=", token, "; Path=/; Secure; HttpOnly"]

def ziaLogin (supply : TokenSupply) : Handler := fun request =>
  withFields (jsonFields ziaShape request) fun found =>
    answerLogin supply (isZiaLogin found)
      (fun token =>
        { Reply.fields [("authType", .string "ADMIN_LOGIN"), ("obfuscateApiKey", .bool true),
            ("passwordExpiryTime", .ofWord 0)] with
          cookie := some (sessionCookie token) })
      (.json 401 (.ofFields [("code", .string "AUTHENTICATION_FAILED")]))

/-- What logs in to ZCC. -/
def zccShape : List Json.FieldShape :=
  [⟨"apiKey", .text⟩, ⟨"secretKey", .text⟩]

def isZccLogin (found : Json.Found) : Bool :=
  found.text? "apiKey" == some clientId && found.text? "secretKey" == some clientSecret

def zccLogin (supply : TokenSupply) : Handler := fun request =>
  withFields (jsonFields zccShape request) fun found =>
    answerLogin supply (isZccLogin found) (fun token => .fields [("jwtToken", .string token)])
      (.bare 401)

/-- What logs in to ZDX. -/
def zdxShape : List Json.FieldShape :=
  [⟨"key_id", .text⟩, ⟨"key_secret", .text⟩, ⟨"timestamp", .natural⟩]

/-- Whether a text looks like a digest in hexadecimal digits. -/
def looksLikeDigest (text : String) : Bool :=
  text.utf8ByteSize == 64 && text.toList.all Text.isHexDigit

/-- Whether the fields log in to ZDX. The secret has to look like a digest only. -/
def isZdxLogin (found : Json.Found) : Bool :=
  found.text? "key_id" == some clientId && (found.text? "key_secret").any looksLikeDigest &&
    (found.natural? "timestamp").any (0 < ·)

def zdxLogin (supply : TokenSupply) : Handler := fun request =>
  withFields (jsonFields zdxShape request) fun found =>
    answerLogin supply (isZdxLogin found)
      (fun token => .fields [("token", .string token), ("token_type", .string "Bearer"),
        ("expires_in", .ofWord tokenLifetime)])
      (.bare 401)

/-- A text without another at its start. -/
def textAfter? (start : String) (text : List Char) : Option String :=
  if start.toList.isPrefixOf text then some (String.ofList (text.drop start.length)) else none

/-- The session in a cookie. -/
def sessionIn? (cookie : String) : Option String :=
  (Url.splitAll ';' cookie.toList).findSome? fun part =>
    textAfter? "JSESSIONID=" (Text.trimBlanks part)

/-- The token that a request presents, in one of the headers that carry tokens. -/
def presentedToken? (request : Request) : Option String :=
  match (request.header? "authorization").bind fun value => textAfter? "Bearer " value.toList with
  | some token => some token
  | none =>
      match (request.header? "cookie").bind sessionIn? with
      | some session => some session
      | none => request.header? "auth-token"

def ziaLogout : Handler := fun request state =>
  match presentedToken? request with
  | none => (.bare 401, state)
  | some token =>
      if state.accepts token then (.bare 204, state.revoke token) else (.bare 401, state)

end CloudAdmin.Sandbox
