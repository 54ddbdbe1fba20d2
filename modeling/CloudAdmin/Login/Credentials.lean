import CloudAdmin.Login.Flow

/-!
# Credentials

What a client proves its identity with, one set of texts for each login flow.
-/

namespace CloudAdmin

/-- The credentials of one login flow. -/
inductive Credentials where
  | oneApi (clientId clientSecret : String)
  | zia (username password apiKey : String)
  | zpa (clientId clientSecret : String)
  | zcc (apiKey secretKey : String)
  | zdx (keyId keySecret : String)
deriving DecidableEq, Repr

namespace Credentials

def flow : Credentials → LoginFlow
  | .oneApi _ _ => .oneApi
  | .zia _ _ _ => .zia
  | .zpa _ _ => .zpa
  | .zcc _ _ => .zcc
  | .zdx _ _ => .zdx

/-- Credentials as they may be shown: by their flow alone. -/
def describe (credentials : Credentials) : String :=
  String.join ["Credentials(", credentials.flow.name, ", <redacted>)"]

end Credentials

end CloudAdmin
