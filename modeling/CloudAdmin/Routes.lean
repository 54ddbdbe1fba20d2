import CloudAdmin.ApiError
import CloudAdmin.Text.Blank

/-!
# Routes

Which products a client can reach, and under which URL. A client reaches either every product
through the gateway, or a single product on its own host. The resources of one product belong to a
customer, whose id is part of their URL.
-/

namespace CloudAdmin

/-- What is found at the root of a client's routes. -/
inductive Reach where
  | gateway
  | ownHost (product : Product)
deriving DecidableEq, Repr

/-- The products that a client can reach. The root does not end in a slash. -/
structure Routes where
  reach : Reach
  root : String
  customerId : Option String
deriving DecidableEq, Repr

namespace Routes

/-- Routes to every product through a gateway. -/
def gateway (root : String) (customerId : Option String) : Routes :=
  ⟨.gateway, Text.dropTrailing '/' root, customerId⟩

/-- The route to one product on its own host. -/
def ownHost (product : Product) (root : String) (customerId : Option String) : Routes :=
  ⟨.ownHost product, Text.dropTrailing '/' root, customerId⟩

/-- The path of a product on its own host. -/
def ownPath : Product → String
  | .zia => "/api/v1"
  | .zcc => "/public/v1"
  | .zdx => "/v1"
  | _ => ""

def has (product : Product) (routes : Routes) : Bool :=
  match routes.reach with
  | .gateway => true
  | .ownHost only => only == product

/-- The URL under which a product is reached. -/
def base (product : Product) (routes : Routes) : Except ApiError String :=
  match routes.reach with
  | .gateway => .ok (routes.root ++ product.gatewayPath)
  | .ownHost only =>
      if only = product then .ok (routes.root ++ ownPath product)
      else .error (.productUnavailable product)

def customer (routes : Routes) : Except ApiError String :=
  match routes.customerId with
  | some id => .ok id
  | none => .error .noCustomerId

/-- The URL of what a customer manages in ZPA. -/
def management (version : String) (routes : Routes) : Except ApiError String := do
  let base ← routes.base .zpa
  let customer ← routes.customer
  return String.join [base, "/mgmtconfig/", version, "/admin/customers/", customer]

/-- The URL of a customer's users in ZPA. -/
def userConfiguration (routes : Routes) : Except ApiError String := do
  let base ← routes.base .zpa
  let customer ← routes.customer
  return String.join [base, "/userconfig/v1/customers/", customer]

end Routes

end CloudAdmin
