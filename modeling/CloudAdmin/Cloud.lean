import CloudAdmin.ApiError
import CloudAdmin.Text.Case

/-!
# Clouds

The products run in several clouds, and the names of their hosts follow from the name of the cloud.
The names of clouds are compared without regard to case, and no name means the main one.
-/

namespace CloudAdmin.Cloud

/-- The name of the main cloud. -/
def main : String := "production"

def isMain (cloud : String) : Bool :=
  cloud.isEmpty || Text.sameName cloud main

def gatewayRoot (cloud : String) : String :=
  if isMain cloud then "https://api.zsapi.net"
  else String.join ["https://api.", Text.lowerAscii cloud, ".zsapi.net"]

/-- The root of the host that issues the gateway's tokens to an organisation. -/
def loginRoot (vanityDomain cloud : String) : String :=
  if isMain cloud then String.join ["https://", vanityDomain, ".zslogin.net"]
  else String.join ["https://", vanityDomain, ".zslogin", Text.lowerAscii cloud, ".net"]

/-- The root of the ZPA host of a cloud, by its name in lower case. -/
def zpaRoot : String → String
  | "" | "production" => "https://config.private.zscaler.com"
  | "beta" => "https://config.zpabeta.net"
  | "gov" => "https://config.zpagov.net"
  | "govus" => "https://config.zpagov.us"
  | "zpatwo" => "https://config.zpatwo.net"
  | other => String.join ["https://config.", other, ".net"]

/-- The root of the host that a product has of its own. -/
def ownRoot (product : Product) (cloud : String) : Except ApiError String :=
  let lowered := Text.lowerAscii cloud
  match product with
  | .zia => .ok (String.join ["https://zsapi.", lowered, ".net"])
  | .zpa => .ok (zpaRoot lowered)
  | .zcc => .ok (String.join ["https://api-mobile.", lowered, ".net/papi"])
  | .zdx =>
      .ok (if lowered.isEmpty then "https://api.zdxcloud.net"
        else String.join ["https://api.", lowered, ".net"])
  | other => .error (.noOwnHost other)

end CloudAdmin.Cloud
