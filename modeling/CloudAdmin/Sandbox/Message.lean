import CloudAdmin.Http.Message
import CloudAdmin.Query

/-!
# Messages of a sandbox

A sandbox is asked with any method, also with ones that a client never uses, and for a path and a
query as they stand in a URL, or for a whole URL. It looks at the first header of a name, and only
if the header holds nothing but visible characters.
-/

namespace CloudAdmin.Sandbox

/-- What a sandbox is asked. -/
structure Request where
  method : String
  path : String
  query : Url.Pairs
  headers : Http.Headers
  body : String

/-- What a sandbox answers. Where it refuses a method, it may say which methods it allows. -/
structure Reply where
  status : Nat
  contentType : Option String
  cookie : Option String
  allowed : List String
  body : String
deriving DecidableEq, Repr

namespace Request

/-- Path and query of a target. A target starts with its path, or it is a whole URL, whose path
follows the authority and is a slash if it is empty. A target of a host alone has neither. -/
def pathAndQuery (target : List Char) : List Char :=
  match target with
  | '/' :: _ | ['*'] => target
  | _ =>
      match Url.splitFirst ':' target with
      | (_, some ('/' :: '/' :: rest)) =>
          let after := rest.dropWhile fun c => c != '/' && c != '?' && c != '#'
          if after.head? = some '/' then after else '/' :: after
      | _ => []

/-- The request for a target: a path, and a query after a question mark. -/
def ofTarget (method target : String) (headers : Http.Headers) (body : String) : Request :=
  let (path, query) := Url.splitFirst '?' ((pathAndQuery target.toList).takeWhile (· != '#'))
  ⟨method, String.ofList path, Url.parseForm (query.getD []), headers, body⟩

/-- Whether a character may stand in a header that is looked at. -/
def isVisible (c : Char) : Bool :=
  c == '\t' || (0x20 ≤ c.toNat && c.toNat ≤ 0x7E)

def header? (name : String) (request : Request) : Option String :=
  (request.headers.find? name).filter fun value => value.toList.all isVisible

/-- The parameter of a name; of several the last. -/
def parameter? (name : String) (request : Request) : Option String :=
  Query.lastValue? name request.query

end Request

namespace Reply

/-- An answer without a body. -/
def bare (status : Nat) : Reply := ⟨status, none, none, [], ""⟩

/-- The refusal of a method at a path that answers to others. -/
def methodRefused (allowed : List String) : Reply :=
  { bare 405 with allowed := allowed }

/-- An answer in JSON. -/
def json (status : Nat) (value : Json.Value) : Reply :=
  ⟨status, some Http.jsonType, none, [], value.text⟩

/-- The successful answer in JSON with some members. -/
def fields (members : List (String × Json.Value)) : Reply :=
  json 200 (.ofFields members)

/-- A refusal of a request that has not the form that it should have, in words. -/
def refusal (status : Nat) : Reply :=
  ⟨status, some "text/plain; charset=utf-8", none, [], "<text>"⟩

def withoutBody (reply : Reply) : Reply :=
  { reply with body := "" }

end Reply

end CloudAdmin.Sandbox
