import CloudAdmin.Sandbox.Resource

/-!
# The paths of a sandbox

A few paths are logins, and two let a test take all tokens back and count the logins. They only
answer to their own methods, and name these when they refuse another. Every other path is a
resource. A request that asks for no more than the headers of an answer gets no body.
-/

namespace CloudAdmin.Sandbox

/-- Handle the methods of a list, each in its own way, and refuse all others. -/
def dispatch (methods : List (String × Handler)) : Handler := fun request state =>
  match Assoc.find? request.method methods with
  | some handler => handler request state
  | none => (.methodRefused (methods.map Prod.fst), state)

def revokeTokens : Handler := fun _ state =>
  (.bare 204, state.revokeAll)

/-- How often a token was issued. -/
def statistics : Handler := fun _ state =>
  (.fields [("logins", .ofWord (UInt64.ofNat state.logins))], state)

/-- The handlers of the paths that are no resources, by method. -/
def endpoints (supply : TokenSupply) : List (String × List (String × Handler)) :=
  [("/oauth2/v1/token", [("POST", gatewayLogin supply)]),
    ("/signin", [("POST", zpaLogin supply)]),
    ("/api/v1/authenticatedSession", [("POST", ziaLogin supply), ("DELETE", ziaLogout),
      ("GET", handleResource), ("HEAD", handleResource)]),
    ("/auth/v1/login", [("POST", zccLogin supply)]),
    ("/v1/oauth/token", [("POST", zdxLogin supply)]),
    ("/mock/revoke-tokens", [("POST", revokeTokens)]),
    ("/mock/stats", [("GET", statistics), ("HEAD", statistics)])]

/-- What handles a path. -/
def route (supply : TokenSupply) (path : String) : Handler :=
  ((Assoc.find? path (endpoints supply)).map dispatch).getD handleResource

def handle (supply : TokenSupply) : Handler := fun request state =>
  let (reply, state') := route supply request.path request state
  (if request.method == "HEAD" then reply.withoutBody else reply, state')

end CloudAdmin.Sandbox
