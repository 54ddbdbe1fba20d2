import CloudAdmin.Http.Status
import CloudAdmin.Login.Authenticator

/-!
# Sessions

A client acts on a world that it does not control: it reads clocks and sends requests, and both may
depend on all that happened before. The only state of its own is the token that it keeps between
calls. An action runs on both and either fails or yields a value; what it did to the state stays
done in either case.
-/

namespace CloudAdmin

/-- What a client can do with the world around it. -/
structure Host (World : Type) where
  /-- The clock by which tokens expire, in milliseconds. -/
  sessionClock : World → UInt64 × World
  /-- The clock by which recent measurements are asked for, in milliseconds. -/
  wallClock : World → UInt64 × World
  /-- Send a request and wait for the response. -/
  send : Http.Request → World → Except ApiError Http.Response × World

/-- The token that a client keeps, and the world around it. -/
structure SessionState (World : Type) where
  token : Option Token
  world : World

/-- Something that a client does. -/
abbrev Action (World : Type) := ExceptT ApiError (StateM (SessionState World))

namespace Action

variable {World Result : Type}

/-- What an action yields in a state, and the state after it. -/
def perform (action : Action World Result) (state : SessionState World) :
    Except ApiError Result × SessionState World :=
  action.run.run state

/-- The action that yields a value or fails without doing anything. -/
def ofExcept (result : Except ApiError Result) : Action World Result :=
  ExceptT.mk (pure result)

/-- Do something with the world. -/
def onWorld (run : World → Result × World) : Action World Result := do
  let state ← get
  let (result, world) := run state.world
  set { state with world := world }
  return result

@[simp]
theorem perform_pure (value : Result) (state : SessionState World) :
    (pure value : Action World Result).perform state = (.ok value, state) := rfl

/-- The second of two actions runs in the state that the first one leaves, if that succeeds. -/
theorem perform_bind {Next : Type} (action : Action World Result)
    (next : Result → Action World Next) (state : SessionState World) :
    (action >>= next).perform state =
      match action.perform state with
      | (.ok value, state') => (next value).perform state'
      | (.error error, state') => (.error error, state') := by
  change (ExceptT.bindCont next (action.perform state).1).run (action.perform state).2 = _
  rcases action.perform state with ⟨result, state'⟩
  cases result with
  | ok value => rfl
  | error error => rfl

@[simp]
theorem perform_ofExcept (result : Except ApiError Result) (state : SessionState World) :
    (ofExcept result).perform state = (result, state) := rfl

@[simp]
theorem perform_onWorld (run : World → Result × World) (state : SessionState World) :
    (onWorld run).perform state =
      (.ok (run state.world).1, { state with world := (run state.world).2 }) := rfl

end Action

/-- How a client logs in, and to which world. -/
structure Session (World : Type) where
  host : Host World
  authenticator : Authenticator

namespace Session

variable {World : Type}

def send (request : Http.Request) (session : Session World) : Action World Http.Response := do
  let result ← Action.onWorld (session.host.send request)
  Action.ofExcept result

@[simp]
theorem perform_send (request : Http.Request) (session : Session World)
    (state : SessionState World) :
    (session.send request).perform state =
      ((session.host.send request state.world).1,
        { state with world := (session.host.send request state.world).2 }) := rfl

def keep (token : Option Token) : Action World Unit :=
  modify fun state => { state with token := token }

@[simp]
theorem perform_keep (token : Option Token) (state : SessionState World) :
    (keep token).perform state = (.ok (), { state with token := token }) := rfl

/-- Log in at a time, and keep the token. -/
def login (now : UInt64) (session : Session World) : Action World Token := do
  let request ← Action.ofExcept (session.authenticator.loginRequest now)
  let response ← session.send request
  let token ← Action.ofExcept (session.authenticator.readLogin response now)
  keep (some token)
  return token

/-- A token that may be used now: the one that is kept, or a new one. -/
def token (session : Session World) : Action World Token := do
  let kept := (← get).token
  let now ← Action.onWorld session.host.sessionClock
  match kept.filter (·.isFresh now) with
  | some token => return token
  | none => session.login now

def invalidate : Action World Unit :=
  keep none

/-- Forget the token, and end the session on its host if there is one. -/
def logout (session : Session World) : Action World Unit := do
  let kept := (← get).token
  invalidate
  match kept.bind fun token => session.authenticator.logoutRequest? token with
  | none => return
  | some request =>
      let response ← session.send request
      Action.ofExcept response.check

end Session

end CloudAdmin
