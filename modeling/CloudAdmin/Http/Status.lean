import CloudAdmin.Http.Message
import CloudAdmin.Json.Reader
import CloudAdmin.Text.Blank

/-!
# Status codes

Every response is checked before its body is looked at. Callers tell apart a resource that is not
there, a token that was refused and a request to pause; every other status that is no success keeps
its code and its body. How long to pause is said by a header or, where that is missing or not a
number of seconds, by a member of the body.
-/

namespace CloudAdmin.Http.Response

/-- The number that a text begins with, after blanks. -/
def leadingSeconds? (text : String) : Option UInt64 :=
  Text.leadingWord64? (Text.trimBlanks text.toList)

/-- The pause that the header asks for. -/
def pauseInHeader? (response : Response) : Option UInt64 :=
  (response.header? "retry-after").bind leadingSeconds?

/-- The pause that the body asks for. -/
def pauseInBody? (response : Response) : Option UInt64 :=
  match (Json.parse? response.body).bind (Json.Value.field? "Retry-After") with
  | some (.number number) => number.toWord64?
  | some (.string text) => leadingSeconds? text
  | _ => none

/-- How many seconds a response asks to pause. -/
def retryAfter? (response : Response) : Option UInt64 :=
  response.pauseInHeader?.or response.pauseInBody?

/-- The error that a response reports, unless it reports success. -/
def check (response : Response) : Except ApiError Unit :=
  if response.isSuccess then .ok ()
  else
    .error <|
      match response.status with
      | 401 => .unauthorized response.body
      | 404 => .notFound
      | 429 => .rateLimited response.retryAfter? response.body
      | status => .httpStatus status response.body

end CloudAdmin.Http.Response
