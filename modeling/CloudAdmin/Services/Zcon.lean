import CloudAdmin.Services.Listing

/-!
# ZCON

The connectors of clouds and branches.
-/

namespace CloudAdmin.Zcon

/-- A resource whose list is paged. -/
def paged (path : String) : Resource := ⟨.product .zcon, path, .zia⟩

/-- A resource whose list comes at once. -/
def whole (path : String) : Resource := ⟨.product .zcon, path, .single⟩

def listings : List Listing := [
  ⟨paged "ecgroup", "ec_groups", "ec_group", Verb.reading⟩,
  ⟨paged "ecgroup/lite", "ec_groups_lite", "ec_group_lite", [.list]⟩,
  ⟨paged "location", "locations", "location", Verb.reading⟩,
  ⟨paged "location/lite", "locations_lite", "location_lite", [.list]⟩,
  ⟨whole "adminUsers", "admin_users", "admin_user", .list :: Verb.editing⟩,
  ⟨whole "provUrl", "provisioning_urls", "provisioning_url", Verb.common⟩]

/-- Whether changes are staged. -/
def activationStatus : ServiceCall :=
  .record (whole "ecAdminActivateStatus") .get "" [] none

def activate : ServiceCall :=
  .record (whole "ecAdminActivateStatus") .put "activate" [] none

end CloudAdmin.Zcon
