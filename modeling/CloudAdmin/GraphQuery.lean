import CloudAdmin.Endpoint

/-!
# Graph queries

One product is asked by posting a query text and its variables. It answers with an object that has
the data, or with a list of errors, which count even if some data comes with them.
-/

namespace CloudAdmin.GraphQuery

/-- The body of a query. Variables that are null are left out. -/
def body (query : String) (bindings : Json.Value) : Json.Value :=
  match bindings with
  | .null => .ofFields [("query", .string query)]
  | _ => .ofFields [("query", .string query), ("variables", bindings)]

def request (url query : String) (bindings : Json.Value) : Http.Request :=
  (Http.Request.bare .post url).withJson (body query bindings)

/-- The message of one error: the text it gives, or its own text. -/
def errorMessage (error : Json.Value) : String :=
  match (error.field? "message").bind Json.Value.toString? with
  | some message => message
  | none => error.text

/-- The data in an answer, unless it reports errors. -/
def readAnswer (answer : Json.Value) : Except ApiError Record :=
  match answer.field? "errors" with
  | some (.array (first :: rest)) => .error (.queryErrors ((first :: rest).map errorMessage))
  | _ =>
      match answer.field? "data" with
      | some (.object fields) => .ok ⟨fields⟩
      | _ => .error (.missingField "data")

/-- The data that a response brings. -/
def readResponse (response : Http.Response) : Except ApiError Record := do
  response.check
  match Json.parse? response.body with
  | some answer => readAnswer answer
  | none => .error .malformedJson

end CloudAdmin.GraphQuery
