import CloudAdmin.Sandbox.Router

/-!
# Connecting a client to a sandbox

A client's request reaches a sandbox by its path and its query alone, whatever host it names, and
its body only if it is to write something. A request whose URL is not well formed does not reach it.
-/

namespace CloudAdmin.Sandbox

/-- The body with which a request is sent: none if it reads or deletes something. -/
def sentBody (request : Http.Request) : String :=
  match request.method with
  | .get | .delete => ""
  | .post | .put | .patch => request.body.getD ""

/-- A client's request as a sandbox sees it. -/
def Request.ofClient (request : Http.Request) (url : Url) : Request :=
  Request.ofTarget request.method.name (String.ofList url.target) request.headers
    (sentBody request)

/-- An answer as a client sees it. -/
def Reply.toResponse (reply : Reply) : Http.Response :=
  let type := reply.contentType.toList.map fun type => ("content-type", type)
  let cookie := reply.cookie.toList.map fun cookie => ("set-cookie", cookie)
  let allowed :=
    if reply.allowed.isEmpty then [] else [("allow", String.intercalate "," reply.allowed)]
  let length := [("content-length", Text.decimal reply.body.utf8ByteSize)]
  ⟨reply.status, type ++ cookie ++ allowed ++ length, reply.body⟩

def send (supply : TokenSupply) (request : Http.Request) (state : State) :
    Except ApiError Http.Response × State :=
  match request.fullUrl with
  | .error error => (.error error, state)
  | .ok url =>
      let (reply, state') := handle supply (Request.ofClient request url) state
      (.ok reply.toResponse, state')

end CloudAdmin.Sandbox
