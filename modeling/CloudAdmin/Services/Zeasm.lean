import CloudAdmin.Services.Listing

/-!
# ZEASM

What of an organisation can be seen from outside. Nothing can be changed.
-/

namespace CloudAdmin.Zeasm

/-- A list. -/
def results (path : String) : Resource := ⟨.product .zeasm, path, .envelope "results"⟩

def read (path : String) : ServiceCall :=
  .record ⟨.product .zeasm, path, .single⟩ .get "" [] none

/-- A path below an organisation. -/
def below (organization path : String) : String :=
  String.join ["organizations/", Url.segment organization, "/", path]

def organizations : ServiceCall :=
  .list (results "organizations") []

/-- What was found about an organisation. -/
def findings (organization : String) (query : Query) : ServiceCall :=
  .list (results (below organization "findings")) query

/-- The details of what was found. -/
def findingDetails (organization finding : String) : ServiceCall :=
  read (below organization (String.join ["findings/", Url.segment finding, "/details"]))

/-- The evidence of what was found. -/
def findingEvidence (organization finding : String) : ServiceCall :=
  read (below organization (String.join ["findings/", Url.segment finding, "/evidence"]))

/-- The domains that look like those of an organisation. -/
def lookalikeDomains (organization : String) : ServiceCall :=
  .list (results (below organization "lookalike-domains")) []

/-- A domain that looks like one of an organisation. -/
def lookalikeDomain (organization domain : String) : ServiceCall :=
  read (below organization ("lookalike-domains/" ++ Url.segment domain))

end CloudAdmin.Zeasm
