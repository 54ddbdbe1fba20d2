import CloudAdmin.ApiError
import CloudAdmin.Text.Case
import CloudAdmin.Url.Parser

/-!
# HTTP messages

Requests and responses are plain data. The query of a request is kept apart from its URL as a list
of pairs; the two are joined when the request is sent. Header names are compared without regard to
case, and a header may be repeated.
-/

namespace CloudAdmin.Http

/-- The method of a request. -/
inductive Method where
  | get
  | post
  | put
  | patch
  | delete
deriving DecidableEq, Repr

namespace Method

def all : List Method := [.get, .post, .put, .patch, .delete]

def name : Method → String
  | .get => "GET"
  | .post => "POST"
  | .put => "PUT"
  | .patch => "PATCH"
  | .delete => "DELETE"

def ofName? (name : String) : Option Method :=
  all.find? (·.name == name)

@[simp]
theorem ofName?_name (method : Method) : ofName? method.name = some method := by
  cases method <;> decide

end Method

/-- Header fields, in order and with repetitions. -/
abbrev Headers := List (String × String)

namespace Headers

/-- The first value under a name. -/
def find? (name : String) (headers : Headers) : Option String :=
  (List.find? (fun header => Text.sameName header.1 name) headers).map Prod.snd

def values (name : String) (headers : Headers) : List String :=
  (headers.filter fun header => Text.sameName header.1 name).map Prod.snd

/-- The headers without those of a name. -/
def without (name : String) (headers : Headers) : Headers :=
  headers.filter fun header => !Text.sameName header.1 name

end Headers

structure Request where
  method : Method
  url : String
  query : Url.Pairs
  headers : Headers
  body : Option String
deriving DecidableEq, Repr

structure Response where
  status : Nat
  headers : Headers
  body : String
deriving DecidableEq, Repr

/-- The content type of a JSON body. -/
def jsonType : String := "application/json"

/-- The content type of a form. -/
def formType : String := "application/x-www-form-urlencoded"

namespace Request

/-- A request with nothing but its method and its URL. -/
def bare (method : Method) (url : String) : Request :=
  ⟨method, url, [], [], none⟩

/-- A request to read a URL. -/
def read (url : String) : Request :=
  bare .get url

def withQuery (query : Url.Pairs) (request : Request) : Request :=
  { request with query := request.query ++ query }

def withHeader (name value : String) (request : Request) : Request :=
  { request with headers := request.headers ++ [(name, value)] }

def withJson (value : Json.Value) (request : Request) : Request :=
  { request.withHeader "content-type" jsonType with body := some value.text }

/-- A request with a form as its body. -/
def withForm (fields : Url.Pairs) (request : Request) : Request :=
  { request.withHeader "content-type" formType with body := some (Url.renderForm fields) }

def header? (name : String) (request : Request) : Option String :=
  request.headers.find? name

/-- The first value of a query parameter. -/
def queryValue? (name : String) (request : Request) : Option String :=
  (request.query.find? (·.1 == name)).map Prod.snd

/-- The URL with the query added to it. -/
def fullUrl (request : Request) : Except ApiError Url :=
  match Url.parse request.url with
  | .ok url => .ok (url.appendPairs request.query)
  | .error fault => .error (.invalidUrl request.url fault)

end Request

namespace Response

def header? (name : String) (response : Response) : Option String :=
  response.headers.find? name

def headerValues (name : String) (response : Response) : List String :=
  response.headers.values name

def isSuccess (response : Response) : Bool :=
  200 ≤ response.status && response.status < 300

end Response

end CloudAdmin.Http
