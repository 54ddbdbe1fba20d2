import CloudAdmin.Endpoint
import CloudAdmin.Routes

/-!
# Resources

A resource is named by where it is in a product, independently of any client: the base that it is
served under, a path below the base, and the way its list is paged. The routes of a client turn it
into an endpoint, or refuse it.
-/

namespace CloudAdmin

/-- A base under which resources are served. -/
inductive Scope where
  /-- The base of a product. -/
  | product (product : Product)
  /-- What a customer manages in ZPA, in some version. -/
  | management (version : String)
  /-- The users of a customer in ZPA. -/
  | userConfiguration
deriving DecidableEq, Repr

def Scope.base (routes : Routes) : Scope → Except ApiError String
  | .product service => routes.base service
  | .management version => routes.management version
  | .userConfiguration => routes.userConfiguration

/-- A collection of records of some product. -/
structure Resource where
  scope : Scope
  path : String
  pagination : Pagination
deriving DecidableEq, Repr

def Resource.endpoint (routes : Routes) (resource : Resource) : Except ApiError Endpoint := do
  return Endpoint.under (← resource.scope.base routes) resource.path resource.pagination

end CloudAdmin
