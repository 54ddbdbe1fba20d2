import CloudAdmin.Client

/-!
# Obtaining a token

Every request of a client starts with a token that may be used now. This file says what obtaining
one does to an arbitrary world, and then, for a transport that answers by the requests sent so far,
which requests it sends and how it ends. A kept token that is fresh costs no request; otherwise
there is exactly one login, unless none can be built, and a login that fails leaves the kept token
as it was.
-/

namespace CloudAdmin

namespace Action

variable {World Result : Type}

@[simp]
theorem perform_get (state : SessionState World) :
    (get : Action World (SessionState World)).perform state = (.ok state, state) := rfl

end Action

namespace Session

variable {World : Type}

/-- A login as one case analysis on the request, the answer and the token in it. -/
theorem perform_login (now : UInt64) (session : Session World) (state : SessionState World) :
    (session.login now).perform state =
      match session.authenticator.loginRequest now with
      | .error error => (.error error, state)
      | .ok request =>
          let world := (session.host.send request state.world).2
          match (session.host.send request state.world).1 with
          | .error error => (.error error, { state with world })
          | .ok response =>
              match session.authenticator.readLogin response now with
              | .error error => (.error error, { state with world })
              | .ok token => (.ok token, ⟨some token, world⟩) := by
  simp only [login, Action.perform_bind, Action.perform_ofExcept]
  cases session.authenticator.loginRequest now with
  | error error => rfl
  | ok request =>
      simp only [perform_send]
      cases (session.host.send request state.world).1 with
      | error error => rfl
      | ok response =>
          simp only []
          cases session.authenticator.readLogin response now with
          | error error => rfl
          | ok token => rfl

/-- The kept token is used if it is fresh by the clock; otherwise there is a login. -/
theorem perform_token (session : Session World) (state : SessionState World) :
    session.token.perform state =
      let world := (session.host.sessionClock state.world).2
      let now := (session.host.sessionClock state.world).1
      match state.token.filter (·.isFresh now) with
      | some token => (.ok token, { state with world })
      | none => (session.login now).perform { state with world } := by
  simp only [token, Action.perform_bind, Action.perform_get, Action.perform_onWorld]
  cases state.token.filter _ with
  | some token => rfl
  | none => rfl

/-- Where no fresh token is kept there is a login. -/
theorem perform_token_of_stale {session : Session World} {state : SessionState World}
    (stale : state.token.filter (·.isFresh (session.host.sessionClock state.world).1) = none) :
    session.token.perform state =
      (session.login (session.host.sessionClock state.world).1).perform
        { state with world := (session.host.sessionClock state.world).2 } := by
  rw [Session.perform_token]
  simp only [stale]

/-- The kept token is forgotten, whatever becomes of the request that ends the session. -/
theorem perform_logout (session : Session World) (state : SessionState World) :
    session.logout.perform state =
      match state.token.bind fun token => session.authenticator.logoutRequest? token with
      | none => (.ok (), { state with token := none })
      | some request =>
          let world := (session.host.send request state.world).2
          match (session.host.send request state.world).1 with
          | .error error => (.error error, ⟨none, world⟩)
          | .ok response => (response.check, ⟨none, world⟩) := by
  simp only [logout, invalidate, Action.perform_bind, Action.perform_get, perform_keep]
  cases state.token.bind _ with
  | none => rfl
  | some request =>
      simp only [Action.perform_bind, perform_send]
      cases (session.host.send request state.world).1 with
      | error error => rfl
      | ok response => rfl

end Session

/-- What answers requests: the answer to the last of the requests sent so far. -/
abbrev Transport := List Http.Request → Except ApiError Http.Response

/-- What a transport and a clock have seen: the requests sent, and how often the time was read. -/
structure Traffic where
  sent : List Http.Request
  readings : Nat

/-- The world of a transport, with a clock that may show any time at each reading. -/
def Transport.host (clock : Nat → UInt64) (transport : Transport) : Host Traffic where
  sessionClock traffic :=
    (clock traffic.readings, { traffic with readings := traffic.readings + 1 })
  wallClock traffic := (clock traffic.readings, { traffic with readings := traffic.readings + 1 })
  send request traffic :=
    (transport (traffic.sent ++ [request]), { traffic with sent := traffic.sent ++ [request] })

/-- How obtaining a token may go after some requests: which further requests are sent, and how it
ends. A token that is kept and fresh is used; otherwise there is one login, if it can be built. -/
inductive TokenCourse (authenticator : Authenticator) (transport : Transport) (kept : Option Token)
    (now : UInt64) (earlier : List Http.Request) :
    List Http.Request → Except ApiError Token → Prop where
  | reused {token : Token} (present : kept = some token) (fresh : token.isFresh now = true) :
      TokenCourse authenticator transport kept now earlier [] (.ok token)
  | unbuilt {error : ApiError} (stale : kept.filter (·.isFresh now) = none)
      (unbuildable : authenticator.loginRequest now = .error error) :
      TokenCourse authenticator transport kept now earlier [] (.error error)
  | unanswered {login : Http.Request} {error : ApiError}
      (stale : kept.filter (·.isFresh now) = none)
      (built : authenticator.loginRequest now = .ok login)
      (failed : transport (earlier ++ [login]) = .error error) :
      TokenCourse authenticator transport kept now earlier [login] (.error error)
  | answered {login : Http.Request} {response : Http.Response}
      (stale : kept.filter (·.isFresh now) = none)
      (built : authenticator.loginRequest now = .ok login)
      (received : transport (earlier ++ [login]) = .ok response) :
      TokenCourse authenticator transport kept now earlier [login]
        (authenticator.readLogin response now)

namespace TokenCourse

variable {authenticator : Authenticator} {transport : Transport} {kept : Option Token}
  {now : UInt64} {earlier : List Http.Request}

/-- What is kept after a token was obtained: the token itself, or what was kept before. -/
def keptAfter (kept : Option Token) : Except ApiError Token → Option Token
  | .ok token => some token
  | .error _ => kept

/-- Obtaining a token takes some course, whatever is kept and whatever is answered. -/
theorem exists_course (authenticator : Authenticator) (transport : Transport) (kept : Option Token)
    (now : UInt64) (earlier : List Http.Request) :
    ∃ sent result, TokenCourse authenticator transport kept now earlier sent result := by
  cases freshness : kept.filter (·.isFresh now) with
  | some token =>
      rcases Option.filter_eq_some_iff.mp freshness with ⟨present, fresh⟩
      exact ⟨[], _, .reused present fresh⟩
  | none =>
      cases built : authenticator.loginRequest now with
      | error error => exact ⟨[], _, .unbuilt freshness built⟩
      | ok login =>
          cases received : transport (earlier ++ [login]) with
          | error error => exact ⟨[login], _, .unanswered freshness built received⟩
          | ok response => exact ⟨[login], _, .answered freshness built received⟩

/-- Nothing but a login is ever sent to obtain a token. -/
theorem mem_sent {sent : List Http.Request} {result : Except ApiError Token}
    {request : Http.Request}
    (course : TokenCourse authenticator transport kept now earlier sent result)
    (member : request ∈ sent) : authenticator.loginRequest now = .ok request := by
  cases course with
  | reused present fresh => cases member
  | unbuilt stale unbuildable => cases member
  | unanswered stale built failed => exact List.mem_singleton.mp member ▸ built
  | answered stale built received => exact List.mem_singleton.mp member ▸ built

/-- A course that may be taken is the one that a session takes. -/
theorem perform_token {clock : Nat → UInt64} (state : SessionState Traffic)
    {sent : List Http.Request} {result : Except ApiError Token}
    (course : TokenCourse authenticator transport state.token (clock state.world.readings)
      state.world.sent sent result) :
    (Session.token ⟨transport.host clock, authenticator⟩).perform state =
      (result, ⟨keptAfter state.token result,
        ⟨state.world.sent ++ sent, state.world.readings + 1⟩⟩) := by
  rcases state with ⟨kept, earlier, readings⟩
  simp only [Session.perform_token, Session.perform_login, Transport.host]
  cases course with
  | reused present fresh =>
      rcases present with rfl
      simp [Option.filter, fresh, keptAfter]
  | unbuilt stale unbuildable => simp [stale, unbuildable, keptAfter]
  | unanswered stale built failed => simp [stale, built, failed, keptAfter]
  | @answered login response stale built received =>
      simp only [stale, built, received]
      cases authenticator.readLogin response (clock readings) with
      | error error => rfl
      | ok token => rfl

end TokenCourse

end CloudAdmin
