/-!
# Products

The services that can be administered. All of them are reached through one gateway, each under a
path of its own; some also have a host of their own.
-/

namespace CloudAdmin

/-- A service that can be administered. -/
inductive Product where
  | zia
  | zpa
  | zcc
  | zdx
  | zcon
  | zidentity
  | zeasm
  | zinsights
deriving DecidableEq, Repr

namespace Product

def all : List Product := [.zia, .zpa, .zcc, .zdx, .zcon, .zidentity, .zeasm, .zinsights]

/-- The name that messages use. -/
def displayName : Product → String
  | .zia => "ZIA"
  | .zpa => "ZPA"
  | .zcc => "ZCC"
  | .zdx => "ZDX"
  | .zcon => "ZCON"
  | .zidentity => "ZIdentity"
  | .zeasm => "ZEASM"
  | .zinsights => "ZInsights"

/-- The name that data uses. -/
def keyword : Product → String
  | .zia => "zia"
  | .zpa => "zpa"
  | .zcc => "zcc"
  | .zdx => "zdx"
  | .zcon => "zcon"
  | .zidentity => "zidentity"
  | .zeasm => "zeasm"
  | .zinsights => "zinsights"

def ofKeyword? (keyword : String) : Option Product :=
  all.find? (·.keyword == keyword)

/-- The path of a product under the gateway. -/
def gatewayPath : Product → String
  | .zia => "/zia/api/v1"
  | .zpa => "/zpa"
  | .zcc => "/zcc/papi/public/v1"
  | .zdx => "/zdx/v1"
  | .zcon => "/ztw/api/v1"
  | .zidentity => "/ziam/admin/api/v1"
  | .zeasm => "/easm/v1"
  | .zinsights => "/zins/graphql"

@[simp]
theorem ofKeyword?_keyword (product : Product) : ofKeyword? product.keyword = some product := by
  cases product <;> decide

end Product

end CloudAdmin
