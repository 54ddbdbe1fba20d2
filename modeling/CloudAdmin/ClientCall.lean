import CloudAdmin.ServiceCall

/-!
# Calls to a client

Besides the calls that the products offer, a client sends requests that its caller has built, and
ends its session. A caller sees what each call yields, and may ask whether the client keeps a token.
-/

namespace CloudAdmin

/-- Something that is asked of a client. -/
inductive ClientCall where
  /-- A call of some product. -/
  | service (call : ServiceCall)
  /-- A request of the caller's own. -/
  | execute (request : Http.Request)
  /-- The end of the session. -/
  | logout

/-- What a client answers. -/
inductive ClientAnswer where
  | answer (answer : Answer)
  | response (response : Http.Response)
  | ended

/-- What a caller sees of a call: what it yields, and whether the client keeps a token after it. -/
structure Outcome where
  result : Except ApiError ClientAnswer
  hasToken : Bool

namespace Client

variable {World : Type}

/-- Do what is asked. -/
def serve (client : Client World) : ClientCall → Action World ClientAnswer
  | .service call => do return .answer (← client.run call)
  | .execute request => do return .response (← client.execute request)
  | .logout => do
      client.logout
      return .ended

/-- Do one thing after the other. A call that fails does not keep later ones from being made. -/
def serveAll (client : Client World) :
    List ClientCall → SessionState World → List Outcome × SessionState World
  | [], state => ([], state)
  | call :: rest, state =>
      let (result, after) := (client.serve call).perform state
      let (outcomes, final) := client.serveAll rest after
      (⟨result, after.token.isSome⟩ :: outcomes, final)

end Client

end CloudAdmin
