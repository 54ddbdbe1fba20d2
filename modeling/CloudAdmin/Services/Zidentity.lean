import CloudAdmin.Services.Listing

/-!
# ZIdentity

Users and their groups. Lists carry a link to the next page.
-/

namespace CloudAdmin.Zidentity

/-- A resource whose list is paged. -/
def paged (path : String) : Resource := ⟨.product .zidentity, path, .zidentity⟩

def groups : Resource := paged "groups"

def listings : List Listing := [
  ⟨paged "users", "users", "user", Verb.all⟩,
  ⟨groups, "groups", "group", Verb.common⟩]

def groupUsers (group : String) (query : Query) : ServiceCall :=
  .list (paged (String.join ["groups/", Url.segment group, "/users"])) query

/-- Where a user is in a group, below the groups. -/
def membership (group user : String) : String :=
  String.join [Url.segment group, "/users/", Url.segment user]

def addUserToGroup (group user : String) : ServiceCall :=
  .command groups .post (membership group user) [] none

/-- Take a user out of a group. -/
def removeUserFromGroup (group user : String) : ServiceCall :=
  .command groups .delete (membership group user) [] none

end CloudAdmin.Zidentity
