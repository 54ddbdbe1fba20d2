import CloudAdmin.ApiError
import CloudAdmin.Assoc
import CloudAdmin.Settings.Secret
import CloudAdmin.Toml.Value

/-!
# Settings of a login

What has to be known to log in, for each flow. The settings of a flow have names in a settings file
and variables in an environment; some are required, some have a default, and some may be missing.
In a file they are given by name, or in their order; in an environment an empty variable gives
nothing.
-/

namespace CloudAdmin

/-- The settings of one login flow. -/
inductive LoginSettings where
  | oneApi (clientId : String) (clientSecret : Secret) (vanityDomain cloud : String)
      (customerId : Option String)
  | zia (username : String) (password apiKey : Secret) (cloud : String)
  | zpa (clientId : String) (clientSecret : Secret) (customerId cloud : String)
  | zcc (apiKey : String) (secretKey : Secret) (cloud : String)
  | zdx (keyId : String) (keySecret : Secret) (cloud : String)
deriving DecidableEq

/-- What happens if a setting is not given. -/
inductive Presence where
  | required
  | optional
  | byDefault (text : String)
deriving DecidableEq, Repr

/-- A setting of a login: its name in a file, its variable in an environment, and what happens if
it is not given. -/
structure LoginSetting where
  name : String
  variable_ : String
  presence : Presence
deriving DecidableEq, Repr

/-- The settings that are given, by name. -/
abbrev GivenSettings := List (String × String)

/-- An environment of variables. -/
abbrev Environment := String → Option String

/-- A variable that is set to something. -/
def Environment.nonEmpty? (environment : Environment) (name : String) : Option String :=
  (environment name).filter fun value => !value.isEmpty

namespace LoginFlow

/-- Every flow, in the order in which an environment is searched for them. -/
def all : List LoginFlow := [.oneApi, .zia, .zpa, .zcc, .zdx]

/-- The name of a flow in a settings file. -/
def keyword : LoginFlow → String
  | .oneApi => "oneapi"
  | .zia => "zia_legacy"
  | .zpa => "zpa_legacy"
  | .zcc => "zcc_legacy"
  | .zdx => "zdx_legacy"

def ofKeyword? (keyword : String) : Option LoginFlow :=
  all.find? (·.keyword == keyword)

/-- The variable that announces a flow. -/
def announcement : LoginFlow → String
  | .oneApi => "ZSCALER_CLIENT_ID"
  | .zia => "ZIA_USERNAME"
  | .zpa => "ZPA_CLIENT_ID"
  | .zcc => "ZCC_CLIENT_ID"
  | .zdx => "ZDX_CLIENT_ID"

def settings : LoginFlow → List LoginSetting
  | .oneApi => [
      ⟨"client_id", "ZSCALER_CLIENT_ID", .required⟩,
      ⟨"client_secret", "ZSCALER_CLIENT_SECRET", .required⟩,
      ⟨"vanity_domain", "ZSCALER_VANITY_DOMAIN", .required⟩,
      ⟨"cloud", "ZSCALER_CLOUD", .byDefault "production"⟩,
      ⟨"customer_id", "ZPA_CUSTOMER_ID", .optional⟩]
  | .zia => [
      ⟨"username", "ZIA_USERNAME", .required⟩,
      ⟨"password", "ZIA_PASSWORD", .required⟩,
      ⟨"api_key", "ZIA_API_KEY", .required⟩,
      ⟨"cloud", "ZIA_CLOUD", .byDefault "zscaler"⟩]
  | .zpa => [
      ⟨"client_id", "ZPA_CLIENT_ID", .required⟩,
      ⟨"client_secret", "ZPA_CLIENT_SECRET", .required⟩,
      ⟨"customer_id", "ZPA_CUSTOMER_ID", .required⟩,
      ⟨"cloud", "ZPA_CLOUD", .byDefault "production"⟩]
  | .zcc => [
      ⟨"api_key", "ZCC_CLIENT_ID", .required⟩,
      ⟨"secret_key", "ZCC_CLIENT_SECRET", .required⟩,
      ⟨"cloud", "ZCC_CLOUD", .byDefault "zscaler"⟩]
  | .zdx => [
      ⟨"key_id", "ZDX_CLIENT_ID", .required⟩,
      ⟨"key_secret", "ZDX_CLIENT_SECRET", .required⟩,
      ⟨"cloud", "ZDX_CLOUD", .byDefault "zdxcloud"⟩]

end LoginFlow

namespace LoginSetting

/-- What is given for a setting that is missing. -/
def missing (setting : LoginSetting) : Except ApiError GivenSettings :=
  match setting.presence with
  | .required => .error (.unsetVariable setting.variable_)
  | .optional => .ok []
  | .byDefault text => .ok [(setting.name, text)]

/-- What an environment gives for a setting. -/
def inEnvironment (environment : Environment) (setting : LoginSetting) :
    Except ApiError GivenSettings :=
  match environment.nonEmpty? setting.variable_ with
  | some text => .ok [(setting.name, text)]
  | none => setting.missing

/-- What a value in a settings file gives for a setting. -/
def ofValue (value : Option Toml.Value) (setting : LoginSetting) :
    Except ApiError GivenSettings :=
  match value with
  | some (.text text) => .ok [(setting.name, text)]
  | some _ => .error .invalidSettings
  | none =>
      match setting.missing with
      | .ok given => .ok given
      | .error _ => .error .invalidSettings

end LoginSetting

namespace LoginSettings

def flow : LoginSettings → LoginFlow
  | .oneApi .. => .oneApi
  | .zia .. => .zia
  | .zpa .. => .zpa
  | .zcc .. => .zcc
  | .zdx .. => .zdx

/-- The values of settings, by name. -/
def values : LoginSettings → List (String × SettingValue)
  | .oneApi clientId clientSecret vanityDomain cloud customerId =>
      [("client_id", .plain clientId), ("client_secret", .secret clientSecret),
        ("vanity_domain", .plain vanityDomain), ("cloud", .plain cloud),
        ("customer_id", .optional customerId)]
  | .zia username password apiKey cloud =>
      [("username", .plain username), ("password", .secret password), ("api_key", .secret apiKey),
        ("cloud", .plain cloud)]
  | .zpa clientId clientSecret customerId cloud =>
      [("client_id", .plain clientId), ("client_secret", .secret clientSecret),
        ("customer_id", .plain customerId), ("cloud", .plain cloud)]
  | .zcc apiKey secretKey cloud =>
      [("api_key", .plain apiKey), ("secret_key", .secret secretKey), ("cloud", .plain cloud)]
  | .zdx keyId keySecret cloud =>
      [("key_id", .plain keyId), ("key_secret", .secret keySecret), ("cloud", .plain cloud)]

/-- How settings of a flow are called where they are shown. -/
def title : LoginFlow → String
  | .oneApi => "OneApi"
  | .zia => "ZiaLegacy"
  | .zpa => "ZpaLegacy"
  | .zcc => "ZccLegacy"
  | .zdx => "ZdxLegacy"

/-- Settings as they may be shown: without secrets. -/
def describe (settings : LoginSettings) : String :=
  describeFields (title settings.flow)
    (settings.values.map fun entry => (entry.1, entry.2.describe))

/-- The settings of a flow from what is given. -/
def ofGiven (flow : LoginFlow) (given : GivenSettings) : Except ApiError LoginSettings :=
  let text := fun name => match Assoc.find? name given with
    | some text => Except.ok text
    | none => Except.error ApiError.invalidSettings
  match flow with
  | .oneApi => do
      return .oneApi (← text "client_id") ⟨← text "client_secret"⟩ (← text "vanity_domain")
        (← text "cloud") (Assoc.find? "customer_id" given)
  | .zia => do
      return .zia (← text "username") ⟨← text "password"⟩ ⟨← text "api_key"⟩ (← text "cloud")
  | .zpa => do
      return .zpa (← text "client_id") ⟨← text "client_secret"⟩ (← text "customer_id")
        (← text "cloud")
  | .zcc => do return .zcc (← text "api_key") ⟨← text "secret_key"⟩ (← text "cloud")
  | .zdx => do return .zdx (← text "key_id") ⟨← text "key_secret"⟩ (← text "cloud")

/-- Collect what is given for each setting. -/
def collect (give : LoginSetting → Except ApiError GivenSettings) :
    List LoginSetting → Except ApiError GivenSettings
  | [] => .ok []
  | setting :: rest => do
      let given ← give setting
      return given ++ (← collect give rest)

/-- Collect what is given for each setting in its place. -/
def collectInOrder : List LoginSetting → List Toml.Value → Except ApiError GivenSettings
  | [], [] => .ok []
  | [], _ :: _ => .error .invalidSettings
  | setting :: rest, values => do
      let given ← setting.ofValue values.head?
      return given ++ (← collectInOrder rest values.tail)

/-- The flow that a value in a settings file names. -/
def flowOfValue (value : Option Toml.Value) : Except ApiError LoginFlow :=
  match value with
  | some (.text name) =>
      match LoginFlow.ofKeyword? name with
      | some flow => .ok flow
      | none => .error .invalidSettings
  | _ => .error .invalidSettings

/-- The settings of a login in a settings file. -/
def ofToml (value : Option Toml.Value) : Except ApiError LoginSettings :=
  match value with
  | some (.table _ entries) => do
      let flow ← flowOfValue (Assoc.find? "flow" entries)
      let given ← collect (fun setting => setting.ofValue (Assoc.find? setting.name entries))
        flow.settings
      ofGiven flow given
  | some (.array (first :: values)) => do
      let flow ← flowOfValue (some first)
      let given ← collectInOrder flow.settings values
      ofGiven flow given
  | _ => .error .invalidSettings

/-- The settings of a login in an environment: those of the first flow that is announced. -/
def ofEnvironment (environment : Environment) : Except ApiError LoginSettings :=
  match LoginFlow.all.find? fun flow => (environment flow.announcement).isSome with
  | none => .error .noCredentials
  | some flow => do
      let given ← collect (·.inEnvironment environment) flow.settings
      ofGiven flow given

end LoginSettings

end CloudAdmin
