import CloudAdmin.Http.Status
import CloudAdmin.Pagination
import CloudAdmin.Url.Segment

/-!
# Endpoints

A resource is a collection of records under one URL, with a way of paging through its list. An
endpoint builds the requests for it and reads the answers. A record of the collection is addressed
by its id, which is put into the URL as one segment whatever characters it has.
-/

namespace CloudAdmin

/-- Where a resource is and how its list is paged. -/
structure Endpoint where
  url : String
  pagination : Pagination
deriving DecidableEq, Repr

namespace Endpoint

/-- A path below a base, with one slash between them. -/
def join (base path : String) : String :=
  let trimmedBase := Text.dropTrailing '/' base
  let trimmedPath := Text.dropLeading '/' path
  if trimmedPath.isEmpty then trimmedBase else trimmedBase ++ "/" ++ trimmedPath

/-- The endpoint of a path below a base. -/
def under (base path : String) (pagination : Pagination) : Endpoint :=
  ⟨join base path, pagination⟩

/-- The URL of the record with an id. -/
def itemUrl (id : String) (endpoint : Endpoint) : String :=
  endpoint.url ++ "/" ++ Url.segment id

/-- The request for the first page of the list. -/
def listRequest (query : Query) (endpoint : Endpoint) : Http.Request :=
  (Http.Request.read endpoint.url).withQuery (endpoint.pagination.listQuery query)

def getRequest (id : String) (endpoint : Endpoint) : Http.Request :=
  Http.Request.read (endpoint.itemUrl id)

def addRequest (body : Record) (endpoint : Endpoint) : Http.Request :=
  (Http.Request.bare .post endpoint.url).withJson body.toValue

def updateRequest (id : String) (body : Record) (endpoint : Endpoint) : Http.Request :=
  (Http.Request.bare .put (endpoint.itemUrl id)).withJson body.toValue

def deleteRequest (id : String) (endpoint : Endpoint) : Http.Request :=
  Http.Request.bare .delete (endpoint.itemUrl id)

/-- The request for anything else below the collection. -/
def callRequest (method : Http.Method) (suffix : String) (query : Query)
    (body : Option Json.Value) (endpoint : Endpoint) : Http.Request :=
  let request := (Http.Request.bare method (join endpoint.url suffix)).withQuery query
  match body with
  | some value => request.withJson value
  | none => request

def readPage (request : Http.Request) (response : Http.Response) (endpoint : Endpoint) :
    Except ApiError Page := do
  response.check
  Page.ofBody endpoint.pagination request response.body

end Endpoint

namespace Http.Response

/-- The record that a response brings. -/
def record (response : Response) : Except ApiError Record := do
  response.check
  Record.ofText response.body

/-- The record that a response brings, if it brings anything. -/
def optionalRecord (response : Response) : Except ApiError (Option Record) := do
  response.check
  if Text.isBlankText response.body then return none
  return some (← Record.ofText response.body)

/-- The JSON that a response brings; an empty response brings null. -/
def value (response : Response) : Except ApiError Json.Value := do
  response.check
  if Text.isBlankText response.body then return .null
  match Json.parse? response.body with
  | some value => return value
  | none => .error .malformedJson

end Http.Response

end CloudAdmin
