/-!
# Login flows

A client logs in either once for all products, or to one product that has a host of its own.
-/

namespace CloudAdmin

/-- A way of logging in. -/
inductive LoginFlow where
  | oneApi
  | zia
  | zpa
  | zcc
  | zdx
deriving DecidableEq, Repr

namespace LoginFlow

/-- The name that messages use. -/
def name : LoginFlow → String
  | .oneApi => "oneapi"
  | .zia => "zia-legacy"
  | .zpa => "zpa-legacy"
  | .zcc => "zcc-legacy"
  | .zdx => "zdx-legacy"

end LoginFlow

end CloudAdmin
