import CloudAdmin.Json.Printer
import CloudAdmin.Login.Flow
import CloudAdmin.Product
import CloudAdmin.Url.Host

/-!
# Errors

Everything that can go wrong when settings are read, a client logs in or a call is made, as one
type of causes. Each cause belongs to a kind, on which callers branch, and has a message. Texts
that are not JSON or not a settings file are reported without the place where reading stopped.
-/

namespace CloudAdmin

/-- What JSON was wanted where a value of another shape was found. -/
inductive WantedJson where
  | object
  | arrayPage
  | arrayOrObject
  | lookupArray
deriving DecidableEq, Repr

/-- How a message names the JSON that was wanted. -/
def WantedJson.describe : WantedJson → String
  | .object => "a JSON object"
  | .arrayPage => "a JSON array page"
  | .arrayOrObject => "a JSON array or object"
  | .lookupArray => "a JSON array from urlLookup"

/-- Why an operation failed. -/
inductive ApiError where
  /-- The server does not know the resource. -/
  | notFound
  /-- The server refused the token. -/
  | unauthorized (body : String)
  /-- The server asks for a pause, of so many seconds if it says so. -/
  | rateLimited (retryAfter : Option UInt64) (body : String)
  /-- The server answered with another status that is no success. -/
  | httpStatus (status : Nat) (body : String)
  /-- A body is not JSON, or not an object where nothing else will do. -/
  | malformedJson
  /-- A body is JSON of the wrong shape. -/
  | unexpectedJson (wanted : WantedJson) (found : Json.Value)
  /-- A record lacks a field that the operation needs. -/
  | missingField (name : String)
  /-- A query was answered with errors. -/
  | queryErrors (messages : List String)
  /-- A login was not answered with success. -/
  | loginRefused (flow : LoginFlow) (status : Nat) (body : String)
  /-- A login was answered with a body that holds no token. -/
  | malformedToken
  /-- A login was answered without a session cookie. -/
  | noSessionCookie
  /-- An API key has too few characters to be obfuscated. -/
  | shortApiKey
  /-- The digits of a time that pick characters of an API key are no numeral. -/
  | unreadableTime (fault : Text.NumeralFault)
  /-- Settings are not well formed. -/
  | invalidSettings
  /-- The file with the settings is not there. -/
  | noSettingsFile (path : String)
  /-- A variable that the settings need is not set. -/
  | unsetVariable (name : String)
  /-- No variable names a login. -/
  | noCredentials
  /-- The variable with the time limit is not a number. -/
  | invalidTimeout (text : String)
  /-- The product needs a customer id. -/
  | noCustomerId
  /-- The product has no host of its own. -/
  | noOwnHost (product : Product)
  /-- A URL is not well formed. -/
  | invalidUrl (url : String) (fault : Url.Fault)
  /-- A time window ends before it starts. -/
  | emptyWindow (startTime endTime : UInt64)
  /-- A request was not answered. -/
  | transport (reason : String)
  /-- The client has no route to the product. -/
  | productUnavailable (product : Product)

/-- The kinds of errors. -/
inductive ErrorKind where
  | notFound
  | unauthorized
  | rateLimited
  | http
  | deserialization
  | missingField
  | queryErrors
  | authentication
  | configuration
  | invalidArgument
  | transport
  | productUnavailable
deriving DecidableEq, Repr

namespace ApiError

def kind : ApiError → ErrorKind
  | .notFound => .notFound
  | .unauthorized _ => .unauthorized
  | .rateLimited _ _ => .rateLimited
  | .httpStatus _ _ => .http
  | .malformedJson | .unexpectedJson _ _ => .deserialization
  | .missingField _ => .missingField
  | .queryErrors _ => .queryErrors
  | .loginRefused _ _ _ | .malformedToken | .noSessionCookie | .shortApiKey
  | .unreadableTime _ => .authentication
  | .invalidSettings | .noSettingsFile _ | .unsetVariable _ | .noCredentials
  | .invalidTimeout _ | .noCustomerId | .noOwnHost _ | .invalidUrl _ _ => .configuration
  | .emptyWindow _ _ => .invalidArgument
  | .transport _ => .transport
  | .productUnavailable _ => .productUnavailable

/-- A pause as messages show it. -/
def pauseText : Option UInt64 → String
  | some seconds => "Some(" ++ Text.decimal seconds.toNat ++ ")"
  | none => "None"

/-- What a message says before the detail. -/
def heading : ErrorKind → String
  | .deserialization => "deserialization failed: "
  | .authentication => "authentication failed: "
  | .configuration => "configuration error: "
  | .invalidArgument => "invalid argument: "
  | _ => ""

/-- What a message says after the heading of its kind. -/
def detail : ApiError → String
  | .notFound => "resource not found"
  | .unauthorized body => "unauthorized: " ++ body
  | .rateLimited pause body => "rate limited (retry after " ++ pauseText pause ++ "s): " ++ body
  | .httpStatus status body => "HTTP " ++ Text.decimal status ++ ": " ++ body
  | .malformedJson => "<json>"
  | .unexpectedJson wanted found => "expected " ++ wanted.describe ++ ", got " ++ found.text
  | .missingField name => "missing field: " ++ name
  | .queryErrors messages => "graphql errors: " ++ String.intercalate "; " messages
  | .loginRefused flow status body =>
      flow.name ++ " login returned HTTP " ++ Text.decimal status ++ ": " ++ body
  | .malformedToken => "malformed token response: <json>"
  | .noSessionCookie => "ZIA login did not set JSESSIONID"
  | .shortApiKey => "ZIA API key is too short"
  | .unreadableTime fault => fault.message
  | .invalidSettings => "invalid config: <toml>"
  | .noSettingsFile path =>
      "failed to read config file '" ++ path ++ "': No such file or directory (os error 2)"
  | .unsetVariable name => name ++ " is not set"
  | .noCredentials => "no Zscaler credentials found in the environment"
  | .invalidTimeout text => "ZSCALER_TIMEOUT_SECS is not a number: " ++ text
  | .noCustomerId => "ZPA customer id is required"
  | .noOwnHost product => product.displayName ++ " has no legacy API, use OneAPI credentials"
  | .invalidUrl url fault => "invalid url " ++ url ++ ": " ++ fault.message
  | .emptyWindow startTime endTime =>
      "start_ms " ++ Text.decimal startTime.toNat ++ " must be before end_ms " ++
        Text.decimal endTime.toNat
  | .transport reason => "transport error: " ++ reason
  | .productUnavailable product =>
      product.displayName ++ " is not available with the configured credentials"

def message (error : ApiError) : String :=
  heading error.kind ++ error.detail

end ApiError

end CloudAdmin
