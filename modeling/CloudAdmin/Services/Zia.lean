import CloudAdmin.Services.Listing

/-!
# ZIA

Internet access: locations, users, rules and tunnels. Long lists come in pages; lists of rules,
categories and dictionaries come at once. Changes are staged until they are activated.
-/

namespace CloudAdmin.Zia

/-- A resource whose list is paged. -/
def paged (path : String) : Resource := ⟨.product .zia, path, .zia⟩

/-- A resource whose list comes at once. -/
def whole (path : String) : Resource := ⟨.product .zia, path, .single⟩

def urlCategories : Resource := whole "urlCategories"

def listings : List Listing := [
  ⟨paged "locations", "locations", "location", Verb.all⟩,
  ⟨paged "locations/lite", "locations_lite", "location_lite", [.list]⟩,
  ⟨paged "locations/groups", "location_groups", "location_group", Verb.reading⟩,
  ⟨urlCategories, "url_categories", "url_category", .list :: Verb.editing⟩,
  ⟨whole "firewallFilteringRules", "firewall_rules", "firewall_rule", .list :: Verb.editing⟩,
  ⟨whole "dlpDictionaries", "dlp_dictionaries", "dlp_dictionary", Verb.common⟩,
  ⟨whole "dlpEngines", "dlp_engines", "dlp_engine", Verb.common⟩,
  ⟨whole "webDlpRules", "dlp_web_rules", "dlp_web_rule", .list :: Verb.editing⟩,
  ⟨paged "users", "users", "user", Verb.all⟩,
  ⟨paged "groups", "groups", "group", Verb.reading⟩,
  ⟨paged "departments", "departments", "department", Verb.reading⟩,
  ⟨whole "adminRoles/lite", "admin_roles", "admin_role", [.list]⟩,
  ⟨paged "staticIP", "static_ips", "static_ip", .list :: Verb.editing⟩,
  ⟨paged "greTunnels", "gre_tunnels", "gre_tunnel", .list :: Verb.editing⟩,
  ⟨paged "vpnCredentials", "vpn_credentials", "vpn_credential", .list :: Verb.editing⟩,
  ⟨paged "vips", "vips", "vip", [.list]⟩,
  ⟨whole "vips/recommendedList", "recommended_vips", "recommended_vip", [.list]⟩,
  ⟨paged "ruleLabels", "rule_labels", "rule_label", Verb.common⟩]

/-- The locations below a location. -/
def subLocations (id : String) : ServiceCall :=
  .list (whole (String.join ["locations/", Url.segment id, "/sublocations"])) []

def categoryNamed (name : String) : ServiceCall :=
  .findCategory urlCategories name

/-- How many URLs may still be put into categories. -/
def urlQuota : ServiceCall :=
  .record (whole "urlCategories/urlQuota") .get "" [] none

/-- Remove users by their ids. -/
def bulkDeleteUsers (ids : List Json.Number) : ServiceCall :=
  .value (whole "users/bulkDelete") .post "" []
    (some (.ofFields [("ids", .array (ids.map .number))]))

/-- Whether changes are staged. -/
def activationStatus : ServiceCall :=
  .record (whole "status") .get "" [] none

def activate : ServiceCall :=
  .record (whole "status") .post "activate" [] none

/-- The session that the client has. -/
def sessionStatus : ServiceCall :=
  .record (whole "authenticatedSession") .get "" [] none

/-- The categories that URLs are in. -/
def urlLookup (urls : List String) : ServiceCall :=
  .lookUp (whole "urlLookup") urls

end CloudAdmin.Zia
