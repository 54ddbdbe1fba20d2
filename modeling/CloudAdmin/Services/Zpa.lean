import CloudAdmin.Services.Listing

/-!
# ZPA

Private access: applications, connectors, policies and the users that identity providers push.
Everything belongs to the customer of the client. Most resources are in the first version of the
management interface, a few are in the second.
-/

namespace CloudAdmin.Zpa

/-- What a provisioning key enrols. -/
inductive Association where
  | connectorGroup
  | serviceEdgeGroup
deriving DecidableEq, Repr

/-- The name of an association in URLs. -/
def Association.keyword : Association → String
  | .connectorGroup => "CONNECTOR_GRP"
  | .serviceEdgeGroup => "SERVICE_EDGE_GRP"

def Association.ofKeyword? (keyword : String) : Option Association :=
  [connectorGroup, serviceEdgeGroup].find? (·.keyword == keyword)

/-- A resource of the first version. -/
def managed (path : String) : Resource := ⟨.management "v1", path, .zpa⟩

/-- A resource of the second version. -/
def managedAnew (path : String) : Resource := ⟨.management "v2", path, .zpa⟩

/-- A resource of the users. -/
def ofUsers (path : String) : Resource := ⟨.userConfiguration, path, .zpa⟩

def listings : List Listing := [
  ⟨managed "application", "application_segments", "application_segment", Verb.all⟩,
  ⟨managed "segmentGroup", "segment_groups", "segment_group", Verb.common⟩,
  ⟨managed "serverGroup", "server_groups", "server_group", Verb.common⟩,
  ⟨managed "appConnectorGroup", "app_connector_groups", "app_connector_group", Verb.common⟩,
  ⟨managed "connector", "app_connectors", "app_connector", [.list, .get, .find, .update, .delete]⟩,
  ⟨managed "serviceEdgeGroup", "service_edge_groups", "service_edge_group", Verb.common⟩,
  ⟨managedAnew "idp", "idps", "idp", Verb.reading⟩,
  ⟨managedAnew "certificate/issued", "issued_certificates", "issued_certificate", [.list]⟩,
  ⟨managed "certificate", "certificates", "certificate", [.get]⟩,
  ⟨ofUsers "scimgroup", "all_scim_groups", "scim_group", [.get]⟩]

/-- Remove connectors by their ids. -/
def bulkDeleteAppConnectors (ids : List String) : ServiceCall :=
  .command (managed "connector/bulkDelete") .post "" []
    (some (.ofFields [("ids", .array (ids.map .string))]))

/-- The keys that enrol something. -/
def provisioningKeys (association : Association) : Resource :=
  managed (String.join ["associationType/", association.keyword, "/provisioningKey"])

def policySet (policyType : String) : ServiceCall :=
  .get (managed "policySet/policyType") policyType

/-- The rules of all policy sets of a type. -/
def rulesOfType (policyType : String) : Resource :=
  managed ("policySet/rules/policyType/" ++ Url.segment policyType)

def policyRules (policySet : String) : Resource :=
  managed (String.join ["policySet/", Url.segment policySet, "/rule"])

/-- Move a rule to a position in its policy set. -/
def reorderPolicyRule (policySet rule : String) (order : UInt32) : ServiceCall :=
  .command (policyRules policySet) .put
    (String.join [Url.segment rule, "/reorder/", decimalWord order]) [] none

/-- The groups that an identity provider pushes. -/
def scimGroups (provider : String) : Resource :=
  ofUsers ("scimgroup/idpId/" ++ Url.segment provider)

end CloudAdmin.Zpa
