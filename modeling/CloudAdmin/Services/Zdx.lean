import CloudAdmin.Services.Listing

/-!
# ZDX

Measurements of how users fare. All calls are about a window of time, by default the last two hours.
-/

namespace CloudAdmin.Zdx

/-- A list that comes at once. -/
def whole (path : String) : Resource := ⟨.product .zdx, path, .single⟩

/-- A list that comes in pages, with its items under a key. -/
def paged (path itemsKey : String) : Resource := ⟨.product .zdx, path, .zdxItems itemsKey⟩

def lists : List (String × Resource) := [
  ("devices", paged "devices" "items"),
  ("apps", whole "apps"),
  ("ongoing_alerts", paged "alerts/ongoing" "alerts"),
  ("departments", whole "administration/departments"),
  ("locations", whole "administration/locations"),
  ("software", paged "inventory/software" "software")]

def list? (name : String) (query : Query) : Option ServiceCall :=
  (lists.find? fun list => list.1 == name).map fun list => .recentList list.2 query

def device (id : String) (query : Query) : ServiceCall :=
  .recentRecord (whole ("devices/" ++ Url.segment id)) query

def app (id : String) (query : Query) : ServiceCall :=
  .recentRecord (whole ("apps/" ++ Url.segment id)) query

def appScore (id : String) (query : Query) : ServiceCall :=
  .recentRecord (whole (String.join ["apps/", Url.segment id, "/score"])) query

end CloudAdmin.Zdx
