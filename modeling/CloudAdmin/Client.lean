import CloudAdmin.GraphQuery
import CloudAdmin.Resource
import CloudAdmin.Session

/-!
# Clients

A client attaches its token to every request. When a token is refused it is dropped, and the request
is sent once more with a new one; nothing else is ever repeated. Lists are read page by page up to a
limit. The operations on records are the same for all resources.
-/

namespace CloudAdmin

/-- A session together with what it reaches. -/
structure Client (World : Type) where
  session : Session World
  routes : Routes
  maxPages : Nat

namespace Client

variable {World : Type}

def endpoint (resource : Resource) (client : Client World) : Action World Endpoint :=
  Action.ofExcept (resource.endpoint client.routes)

/-- Send a request with a token that may be used now. -/
def sendAuthorized (request : Http.Request) (client : Client World) :
    Action World Http.Response := do
  let token ← client.session.token
  client.session.send (token.authorize request)

/-- Send a request, once more if its token is refused. -/
def execute (request : Http.Request) (client : Client World) : Action World Http.Response := do
  let response ← client.sendAuthorized request
  if response.status ≠ 401 then return response
  Session.invalidate
  client.sendAuthorized request

def logout (client : Client World) : Action World Unit :=
  client.session.logout

/-- Read the page that a request asks for. -/
def readPage (endpoint : Endpoint) (request : Http.Request) (client : Client World) :
    Action World Page := do
  let response ← client.execute request
  Action.ofExcept (endpoint.readPage request response)

/-- The first page of a list. -/
def listPage (endpoint : Endpoint) (query : Query) (client : Client World) : Action World Page :=
  client.readPage endpoint (endpoint.listRequest query)

/-- The records on the page that a request asks for and on the pages after it, up to a number of
pages. -/
def walk (endpoint : Endpoint) (client : Client World) : Nat → Http.Request →
    Action World (List Record)
  | 0, _ => return []
  | pages + 1, request => do
      let page ← client.readPage endpoint request
      match page.next with
      | none => return page.items
      | some next => return page.items ++ (← walk endpoint client pages next)

/-- The records of a list, as many as are on the pages that the client may read. At least one page
is read. -/
def listAll (endpoint : Endpoint) (query : Query) (client : Client World) :
    Action World (List Record) :=
  client.walk endpoint (max client.maxPages 1) (endpoint.listRequest query)

def get (endpoint : Endpoint) (id : String) (client : Client World) : Action World Record := do
  let response ← client.execute (endpoint.getRequest id)
  Action.ofExcept response.record

/-- The first record with exactly a given name among those that a search for it finds. -/
def findByName (endpoint : Endpoint) (name : String) (client : Client World) :
    Action World (Option Record) := do
  let records ← client.listAll endpoint (Query.search name [])
  return records.find? fun record => record.name? == some name

def add (endpoint : Endpoint) (body : Record) (client : Client World) : Action World Record := do
  let response ← client.execute (endpoint.addRequest body)
  Action.ofExcept response.record

/-- Replace a record. The stored record is read again if the response does not bring it. -/
def update (endpoint : Endpoint) (id : String) (body : Record) (client : Client World) :
    Action World Record := do
  let response ← client.execute (endpoint.updateRequest id body)
  match ← Action.ofExcept response.optionalRecord with
  | some record => return record
  | none => client.get endpoint id

def delete (endpoint : Endpoint) (id : String) (client : Client World) : Action World Unit := do
  let response ← client.execute (endpoint.deleteRequest id)
  Action.ofExcept response.check

/-- Whatever a call below a collection yields. -/
def call (endpoint : Endpoint) (method : Http.Method) (suffix : String) (query : Query)
    (body : Option Json.Value) (client : Client World) : Action World Json.Value := do
  let response ← client.execute (endpoint.callRequest method suffix query body)
  Action.ofExcept response.value

/-- The record that a call below a collection yields. -/
def callRecord (endpoint : Endpoint) (method : Http.Method) (suffix : String) (query : Query)
    (body : Option Json.Value) (client : Client World) : Action World Record := do
  let value ← client.call endpoint method suffix query body
  Action.ofExcept (Record.ofValue value)

/-- The data that a graph query yields. -/
def ask (query : String) (bindings : Json.Value) (client : Client World) :
    Action World Record := do
  let url ← Action.ofExcept (client.routes.base .zinsights)
  let response ← client.execute (GraphQuery.request url query bindings)
  Action.ofExcept (GraphQuery.readResponse response)

end Client

end CloudAdmin
