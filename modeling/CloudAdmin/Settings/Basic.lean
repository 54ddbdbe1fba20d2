import CloudAdmin.Cloud
import CloudAdmin.Login.Authenticator
import CloudAdmin.Routes
import CloudAdmin.Settings.Login
import CloudAdmin.Toml.Reader

/-!
# Settings of a client

The settings of a client are those of its login, limits, and URLs that take the place of the usual
ones. They are read from a settings file or from an environment, and they determine how the client
logs in and which products it reaches.
-/

namespace CloudAdmin

/-- The settings of a client. -/
structure Settings where
  login : LoginSettings
  /-- How long a request may take, in seconds. -/
  timeout : UInt64
  /-- The root that takes the place of the products' usual one. -/
  baseUrl : Option String
  /-- The root that takes the place of the usual one for logging in. -/
  loginUrl : Option String
  /-- How many pages of a list are read. -/
  maxPages : UInt64
  /-- How many bytes a response may have. It is for the host to keep to it. -/
  maxResponseBytes : UInt64
deriving DecidableEq

namespace Settings

/-- How long a request may take unless something else is set, in seconds. -/
def defaultTimeout : UInt64 := 240

/-- How many pages of a list are read unless something else is set. -/
def defaultMaxPages : UInt64 := 1000

/-- How many bytes a response may have unless something else is set. -/
def defaultMaxResponseBytes : UInt64 := 536870912

/-- Settings with nothing but a login. -/
def ofLogin (login : LoginSettings) : Settings :=
  ⟨login, defaultTimeout, none, none, defaultMaxPages, defaultMaxResponseBytes⟩

/-- Settings with another root for the products. -/
def withBaseUrl (url : String) (settings : Settings) : Settings :=
  { settings with baseUrl := some url }

/-- A number in a settings file, or a default. -/
def numberAt (name : String) (default : UInt64) (entries : Toml.Entries) :
    Except ApiError UInt64 :=
  match Assoc.find? name entries with
  | none => .ok default
  | some (.integer (.ofNat value)) => .ok (UInt64.ofNat value)
  | some _ => .error .invalidSettings

/-- A text in a settings file, if there is one. -/
def textAt? (name : String) (entries : Toml.Entries) : Except ApiError (Option String) :=
  match Assoc.find? name entries with
  | none => .ok none
  | some (.text text) => .ok (some text)
  | some _ => .error .invalidSettings

/-- The settings in a settings file. -/
def ofToml (text : String) : Except ApiError Settings :=
  match Toml.parse? text with
  | none => .error .invalidSettings
  | some entries => do
      let login ← LoginSettings.ofToml (Assoc.find? "auth" entries)
      let timeout ← numberAt "timeout_secs" defaultTimeout entries
      let baseUrl ← textAt? "base_url_override" entries
      let loginUrl ← textAt? "auth_url_override" entries
      let maxPages ← numberAt "max_pages" defaultMaxPages entries
      let maxResponseBytes ← numberAt "max_response_bytes" defaultMaxResponseBytes entries
      return ⟨login, timeout, baseUrl, loginUrl, maxPages, maxResponseBytes⟩

def ofFile (path : String) (content : Option String) : Except ApiError Settings :=
  match content with
  | some text => ofToml text
  | none => .error (.noSettingsFile path)

/-- The time limit in an environment. -/
def timeoutIn (environment : Environment) : Except ApiError UInt64 :=
  match environment "ZSCALER_TIMEOUT_SECS" with
  | none => .ok defaultTimeout
  | some text =>
      match Text.toWord64? text with
      | some seconds => .ok seconds
      | none => .error (.invalidTimeout text)

/-- The settings in an environment. -/
def ofEnvironment (environment : Environment) : Except ApiError Settings := do
  let login ← LoginSettings.ofEnvironment environment
  let timeout ← timeoutIn environment
  return { ofLogin login with
    timeout := timeout
    baseUrl := environment.nonEmpty? "ZSCALER_BASE_URL_OVERRIDE" }

/-- Settings as they may be shown: without secrets. -/
def describe (settings : Settings) : String :=
  let number := fun value : UInt64 => Text.decimal value.toNat
  let optional := fun text => SettingValue.describe (.optional text)
  describeFields "ClientConfig" [
    ("auth", settings.login.describe),
    ("timeout_secs", number settings.timeout),
    ("base_url_override", optional settings.baseUrl),
    ("auth_url_override", optional settings.loginUrl),
    ("max_pages", number settings.maxPages),
    ("max_response_bytes", number settings.maxResponseBytes)]

/-- How a client logs in and what it reaches, on the host that a product has of its own. -/
def resolveOwn (settings : Settings) (product : Product) (cloud : String)
    (credentials : Credentials) (customerId : Option String) :
    Except ApiError (Authenticator × Routes) := do
  let root ← match settings.baseUrl with
    | some root => pure root
    | none => Cloud.ownRoot product cloud
  return (Authenticator.ofRoot (settings.loginUrl.getD root) credentials,
    Routes.ownHost product root customerId)

/-- How a client logs in and what it reaches. -/
def resolve (settings : Settings) : Except ApiError (Authenticator × Routes) :=
  match settings.login with
  | .oneApi clientId clientSecret vanityDomain cloud customerId =>
      let root := settings.baseUrl.getD (Cloud.gatewayRoot cloud)
      let loginRoot := (settings.loginUrl.or settings.baseUrl).getD
        (Cloud.loginRoot vanityDomain cloud)
      .ok (Authenticator.ofRoot loginRoot (.oneApi clientId clientSecret.expose),
        Routes.gateway root customerId)
  | .zia username password apiKey cloud =>
      settings.resolveOwn .zia cloud (.zia username password.expose apiKey.expose) none
  | .zpa clientId clientSecret customerId cloud =>
      settings.resolveOwn .zpa cloud (.zpa clientId clientSecret.expose) (some customerId)
  | .zcc apiKey secretKey cloud =>
      settings.resolveOwn .zcc cloud (.zcc apiKey secretKey.expose) none
  | .zdx keyId keySecret cloud =>
      settings.resolveOwn .zdx cloud (.zdx keyId keySecret.expose) none

end Settings

end CloudAdmin
