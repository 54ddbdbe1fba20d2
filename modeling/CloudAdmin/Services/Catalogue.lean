import CloudAdmin.Services.Zcc
import CloudAdmin.Services.Zcon
import CloudAdmin.Services.Zdx
import CloudAdmin.Services.Zeasm
import CloudAdmin.Services.Zia
import CloudAdmin.Services.Zidentity
import CloudAdmin.Services.Zinsights
import CloudAdmin.Services.Zpa

/-!
# The catalogue of calls

The calls that are made of a listed resource and a common operation, by product and name.
-/

namespace CloudAdmin

namespace Product

/-- The resources of a product that have common operations. -/
def listings : Product → List Listing
  | .zia => Zia.listings
  | .zpa => Zpa.listings
  | .zcc => Zcc.listings
  | .zcon => Zcon.listings
  | .zidentity => Zidentity.listings
  | .zdx | .zeasm | .zinsights => []

def call? (name : String) (arguments : Arguments) (product : Product) : Option ServiceCall :=
  product.listings.findSome? (·.call? name arguments)

end Product

end CloudAdmin
