import CloudAdmin.Services.Catalogue

/-!
# What the products offer

Every call that a product offers is made either of one of its listings and a common operation, or of
a resource of its own. Main statement: whatever ids, names and bodies a caller gives, the call is
about the product that offers it, and the calls of ZPA are about its two interfaces, never about
what is directly below its base.
-/

namespace CloudAdmin

/-- The product that a base belongs to. -/
def Scope.owner : Scope → Product
  | .product service => service
  | .management _ | .userConfiguration => .zpa

/-- Where a scope is below the base of its product, up to the customer. -/
def Scope.interface : Scope → String
  | .product _ => ""
  | .management version => "/mgmtconfig/" ++ version ++ "/admin/customers"
  | .userConfiguration => "/userconfig/v1/customers"

/-- The base that a call is about. -/
def ServiceCall.scope : ServiceCall → Scope
  | .list resource _ | .page resource _ | .get resource _ | .find resource _ | .add resource _
  | .update resource _ _ | .delete resource _ | .value resource _ _ _ _ | .record resource _ _ _ _
  | .command resource _ _ _ _ | .edit resource _ | .findCategory resource _ | .lookUp resource _
  | .recentList resource _ | .recentRecord resource _ => resource.scope
  | .ask _ _ | .askBetween _ _ _ _ => .product .zinsights

/-- The calls that a product offers. -/
inductive Product.Offers : Product → ServiceCall → Prop where
  | listed {product : Product} {listing : Listing} {verb : Verb}
      (isListing : listing ∈ product.listings) (isVerb : verb ∈ listing.verbs)
      (arguments : Arguments) : Offers product (verb.call listing.resource arguments)
  | subLocations (id : String) : Offers .zia (Zia.subLocations id)
  | categoryNamed (name : String) : Offers .zia (Zia.categoryNamed name)
  | urlQuota : Offers .zia Zia.urlQuota
  | bulkDeleteUsers (ids : List Json.Number) : Offers .zia (Zia.bulkDeleteUsers ids)
  | ziaActivationStatus : Offers .zia Zia.activationStatus
  | ziaActivate : Offers .zia Zia.activate
  | sessionStatus : Offers .zia Zia.sessionStatus
  | urlLookup (urls : List String) : Offers .zia (Zia.urlLookup urls)
  | bulkDeleteAppConnectors (ids : List String) : Offers .zpa (Zpa.bulkDeleteAppConnectors ids)
  | provisioningKeys (association : Zpa.Association) {verb : Verb}
      (isVerb : verb ∈ .list :: Verb.editing) (arguments : Arguments) :
      Offers .zpa (verb.call (Zpa.provisioningKeys association) arguments)
  | policySet (policyType : String) : Offers .zpa (Zpa.policySet policyType)
  | rulesOfType (policyType : String) (query : Query) :
      Offers .zpa (.list (Zpa.rulesOfType policyType) query)
  | policyRules (policySet : String) {verb : Verb} (isVerb : verb ∈ Verb.editing)
      (arguments : Arguments) : Offers .zpa (verb.call (Zpa.policyRules policySet) arguments)
  | reorderPolicyRule (policySet rule : String) (order : UInt32) :
      Offers .zpa (Zpa.reorderPolicyRule policySet rule order)
  | scimGroups (provider : String) {verb : Verb} (isVerb : verb ∈ [Verb.list, .find])
      (arguments : Arguments) : Offers .zpa (verb.call (Zpa.scimGroups provider) arguments)
  | removeDevices (body : Record) : Offers .zcc (Zcc.removeDevices body)
  | forceRemoveDevices (body : Record) : Offers .zcc (Zcc.forceRemoveDevices body)
  | oneTimePassword (device : String) : Offers .zcc (Zcc.oneTimePassword device)
  | passwords (username system : String) : Offers .zcc (Zcc.passwords username system)
  | addTrustedNetwork (body : Record) : Offers .zcc (Zcc.addTrustedNetwork body)
  | updateTrustedNetwork (body : Record) : Offers .zcc (Zcc.updateTrustedNetwork body)
  | deleteTrustedNetwork (id : String) : Offers .zcc (Zcc.deleteTrustedNetwork id)
  | failOpenPolicy : Offers .zcc Zcc.failOpenPolicy
  | updateFailOpenPolicy (body : Record) : Offers .zcc (Zcc.updateFailOpenPolicy body)
  | zdxList {name : String} {call : ServiceCall} (query : Query)
      (found : Zdx.list? name query = some call) : Offers .zdx call
  | device (id : String) (query : Query) : Offers .zdx (Zdx.device id query)
  | app (id : String) (query : Query) : Offers .zdx (Zdx.app id query)
  | appScore (id : String) (query : Query) : Offers .zdx (Zdx.appScore id query)
  | zconActivationStatus : Offers .zcon Zcon.activationStatus
  | zconActivate : Offers .zcon Zcon.activate
  | groupUsers (group : String) (query : Query) :
      Offers .zidentity (Zidentity.groupUsers group query)
  | addUserToGroup (group user : String) : Offers .zidentity (Zidentity.addUserToGroup group user)
  | removeUserFromGroup (group user : String) :
      Offers .zidentity (Zidentity.removeUserFromGroup group user)
  | organizations : Offers .zeasm Zeasm.organizations
  | findings (organization : String) (query : Query) :
      Offers .zeasm (Zeasm.findings organization query)
  | findingDetails (organization finding : String) :
      Offers .zeasm (Zeasm.findingDetails organization finding)
  | findingEvidence (organization finding : String) :
      Offers .zeasm (Zeasm.findingEvidence organization finding)
  | lookalikeDomains (organization : String) : Offers .zeasm (Zeasm.lookalikeDomains organization)
  | lookalikeDomain (organization domain : String) :
      Offers .zeasm (Zeasm.lookalikeDomain organization domain)
  | query (query : String) (bindings : Json.Value) : Offers .zinsights (.ask query bindings)
  | webTrafficByLocation (startTime endTime : UInt64) (limit : UInt32) :
      Offers .zinsights (Zinsights.webTrafficByLocation startTime endTime limit)
  | firewallByAction (startTime endTime : UInt64) (limit : UInt32) :
      Offers .zinsights (Zinsights.firewallByAction startTime endTime limit)
  | cyberIncidentsByCategory (startTime endTime : UInt64) (limit : UInt32) :
      Offers .zinsights (Zinsights.cyberIncidentsByCategory startTime endTime limit)

/-- Whether a product offers calls about a scope. ZPA offers none about what is directly below its
base. -/
def Scope.isOf (product : Product) : Scope → Bool
  | .product service => service == product && product != .zpa
  | .management _ | .userConfiguration => product == .zpa

theorem Verb.scope_call (resource : Resource) (arguments : Arguments) (verb : Verb) :
    (verb.call resource arguments).scope = resource.scope := by
  cases verb <;> rfl

theorem Product.isOf_of_mem_listings {product : Product} {listing : Listing}
    (member : listing ∈ product.listings) : listing.resource.scope.isOf product = true := by
  have all : product.listings.all (·.resource.scope.isOf product) = true := by
    cases product <;> decide
  exact List.all_eq_true.mp all listing member

theorem Zdx.isOf_list? {name : String} {query : Query} {call : ServiceCall}
    (found : Zdx.list? name query = some call) : call.scope.isOf .zdx = true := by
  have all : Zdx.lists.all (·.2.scope.isOf .zdx) = true := by decide
  rcases Option.map_eq_some_iff.mp found with ⟨list, isList, rfl⟩
  exact List.all_eq_true.mp all list (List.mem_of_find?_eq_some isList)

/-- Every call that a product offers is about a scope of the product. -/
theorem Product.Offers.isOf {product : Product} {call : ServiceCall}
    (offers : product.Offers call) : call.scope.isOf product = true := by
  cases offers with
  | listed isListing isVerb arguments =>
      rw [Verb.scope_call]
      exact isOf_of_mem_listings isListing
  | zdxList query found => exact Zdx.isOf_list? found
  | provisioningKeys association isVerb arguments =>
      rw [Verb.scope_call]
      rfl
  | policyRules policySet isVerb arguments =>
      rw [Verb.scope_call]
      rfl
  | scimGroups provider isVerb arguments =>
      rw [Verb.scope_call]
      rfl
  | _ => rfl

end CloudAdmin
