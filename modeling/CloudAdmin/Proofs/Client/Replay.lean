import CloudAdmin.Proofs.Session.TokenCourse

/-!
# Refused tokens

A client sends a request with its token, and if the answer is that the token is refused, it logs in
anew and sends the same request once more. This file describes every way in which that may go, over
a transport that answers as it likes and may remember everything that it was sent. The main
statement says that a call goes in exactly one of these ways: nothing else is sent, the result is
the last answer or the error that ended the call, and the token that is kept afterwards is the last
one that was obtained, unless it was refused and could not be replaced.
-/

namespace CloudAdmin

namespace Http.Request

/-- What sets a request with a token apart from the request itself: one header of the token's name,
after all headers of other names in their order. -/
structure IsCopyWith (header : String × String) (request copy : Http.Request) : Prop where
  sameMethod : copy.method = request.method
  sameUrl : copy.url = request.url
  sameQuery : copy.query = request.query
  sameBody : copy.body = request.body
  onlyHeader : copy.headers.values header.1 = [header.2]
  otherHeaders : copy.headers.without header.1 = request.headers.without header.1

end Http.Request

@[simp]
theorem Text.sameName_self (name : String) : sameName name name = true := by
  simp [sameName]

namespace Http.Headers

@[simp]
theorem values_append (name : String) (first second : Headers) :
    values name (first ++ second) = values name first ++ values name second := by
  simp [values]

@[simp]
theorem without_append (name : String) (first second : Headers) :
    without name (first ++ second) = without name first ++ without name second := by
  simp [without]

@[simp]
theorem values_without (name : String) (headers : Headers) :
    values name (without name headers) = [] := by
  simp [values, without, List.filter_filter]

@[simp]
theorem without_without (name : String) (headers : Headers) :
    without name (without name headers) = without name headers := by
  simp [without, List.filter_filter]

@[simp]
theorem values_singleton (header : String × String) : values header.1 [header] = [header.2] := by
  simp [values]

@[simp]
theorem without_singleton (header : String × String) : without header.1 [header] = [] := by
  simp [without]

end Http.Headers

/-- A request with a token is the request with the token's header. -/
theorem Token.isCopyWith_authorize (token : Token) (request : Http.Request) :
    request.IsCopyWith token.header (token.authorize request) where
  sameMethod := rfl
  sameUrl := rfl
  sameQuery := rfl
  sameBody := rfl
  onlyHeader := by simp [authorize]
  otherHeaders := by simp [authorize]

namespace Client

/-- How a call may go: which requests are sent, how it ends, and which token is kept afterwards.
The two times are those at which a token is first needed and, if it is refused, needed again. -/
inductive Course (authenticator : Authenticator) (transport : Transport) (kept : Option Token)
    (now later : UInt64) (earlier : List Http.Request) (request : Http.Request) :
    List Http.Request → Except ApiError Http.Response → Option Token → Prop where
  | withoutToken {sent : List Http.Request} {error : ApiError}
      (failed : TokenCourse authenticator transport kept now earlier sent (.error error)) :
      Course authenticator transport kept now later earlier request sent (.error error) kept
  | unanswered {sent : List Http.Request} {token : Token} {error : ApiError}
      (obtained : TokenCourse authenticator transport kept now earlier sent (.ok token))
      (failed : transport (earlier ++ (sent ++ [token.authorize request])) = .error error) :
      Course authenticator transport kept now later earlier request
        (sent ++ [token.authorize request]) (.error error) (some token)
  | accepted {sent : List Http.Request} {token : Token} {response : Http.Response}
      (obtained : TokenCourse authenticator transport kept now earlier sent (.ok token))
      (received : transport (earlier ++ (sent ++ [token.authorize request])) = .ok response)
      (isAccepted : response.status ≠ 401) :
      Course authenticator transport kept now later earlier request
        (sent ++ [token.authorize request]) (.ok response) (some token)
  | notRenewed {sent renewal : List Http.Request} {token : Token} {response : Http.Response}
      {error : ApiError}
      (obtained : TokenCourse authenticator transport kept now earlier sent (.ok token))
      (received : transport (earlier ++ (sent ++ [token.authorize request])) = .ok response)
      (isRefused : response.status = 401)
      (failed : TokenCourse authenticator transport none later
        (earlier ++ (sent ++ [token.authorize request])) renewal (.error error)) :
      Course authenticator transport kept now later earlier request
        (sent ++ [token.authorize request] ++ renewal) (.error error) none
  | replayed {sent renewal : List Http.Request} {token renewed : Token} {response : Http.Response}
      (obtained : TokenCourse authenticator transport kept now earlier sent (.ok token))
      (received : transport (earlier ++ (sent ++ [token.authorize request])) = .ok response)
      (isRefused : response.status = 401)
      (obtainedAgain : TokenCourse authenticator transport none later
        (earlier ++ (sent ++ [token.authorize request])) renewal (.ok renewed)) :
      Course authenticator transport kept now later earlier request
        (sent ++ [token.authorize request] ++ renewal ++ [renewed.authorize request])
        (transport (earlier ++
          (sent ++ [token.authorize request] ++ renewal ++ [renewed.authorize request])))
        (some renewed)

section Perform

variable {World : Type}

theorem perform_sendAuthorized (request : Http.Request) (client : Client World)
    (state : SessionState World) :
    (client.sendAuthorized request).perform state =
      match client.session.token.perform state with
      | (.error error, state') => (.error error, state')
      | (.ok token, state') =>
          (client.session.send (token.authorize request)).perform state' := by
  simp only [sendAuthorized, Action.perform_bind]
  rcases client.session.token.perform state with ⟨_ | _, state'⟩ <;> rfl

/-- A call is one request with a token, and a second one without the token that was refused. -/
theorem perform_execute (request : Http.Request) (client : Client World)
    (state : SessionState World) :
    (client.execute request).perform state =
      match (client.sendAuthorized request).perform state with
      | (.error error, state') => (.error error, state')
      | (.ok response, state') =>
          if response.status = 401 then
            (client.sendAuthorized request).perform { state' with token := none }
          else (.ok response, state') := by
  simp only [execute, Action.perform_bind]
  rcases (client.sendAuthorized request).perform state with ⟨_ | response, state'⟩
  · rfl
  · by_cases isRefused : response.status = 401
    · simp only [isRefused, ne_eq, not_true_eq_false, if_false, if_true]
      rfl
    · simp only [isRefused, ne_eq, not_false_eq_true, if_true, if_false]
      rfl

end Perform

/-- A course that may be followed is the one that a call follows. -/
theorem Course.perform_execute {authenticator : Authenticator} {transport : Transport}
    {clock : Nat → UInt64} {kept after : Option Token} {earlier sent : List Http.Request}
    {readings : Nat} {request : Http.Request} {result : Except ApiError Http.Response}
    (course : Course authenticator transport kept (clock readings) (clock (readings + 1)) earlier
      request sent result after) (client : Client Traffic)
    (session : client.session = ⟨transport.host clock, authenticator⟩) :
    ∃ later, (client.execute request).perform ⟨kept, ⟨earlier, readings⟩⟩ =
      (result, ⟨after, ⟨earlier ++ sent, later⟩⟩) := by
  rw [Client.perform_execute, perform_sendAuthorized, session]
  cases course with
  | withoutToken failed =>
      rw [failed.perform_token ⟨kept, ⟨earlier, readings⟩⟩]
      exact ⟨_, rfl⟩
  | unanswered obtained failed =>
      rw [obtained.perform_token ⟨kept, ⟨earlier, readings⟩⟩]
      simp [Session.perform_send, Transport.host, TokenCourse.keptAfter, failed]
  | accepted obtained received isAccepted =>
      rw [obtained.perform_token ⟨kept, ⟨earlier, readings⟩⟩]
      simp [Session.perform_send, Transport.host, TokenCourse.keptAfter, received, isAccepted]
  | @notRenewed sent renewal token response error obtained received isRefused failed =>
      rw [obtained.perform_token ⟨kept, ⟨earlier, readings⟩⟩]
      simp only [Session.perform_send, Transport.host, TokenCourse.keptAfter, List.append_assoc,
        received, isRefused, if_true]
      rw [perform_sendAuthorized, session, failed.perform_token
        ⟨none, ⟨earlier ++ (sent ++ [token.authorize request]), readings + 1⟩⟩]
      simp [TokenCourse.keptAfter]
  | @replayed sent renewal token renewed response obtained received isRefused obtainedAgain =>
      rw [obtained.perform_token ⟨kept, ⟨earlier, readings⟩⟩]
      simp only [Session.perform_send, Transport.host, TokenCourse.keptAfter, List.append_assoc,
        received, isRefused, if_true]
      rw [perform_sendAuthorized, session, obtainedAgain.perform_token
        ⟨none, ⟨earlier ++ (sent ++ [token.authorize request]), readings + 1⟩⟩]
      simp [Session.perform_send, Transport.host, TokenCourse.keptAfter]

/-- A call sends nothing but logins and its own request with a token. -/
theorem Course.mem_sent {authenticator : Authenticator} {transport : Transport}
    {kept after : Option Token} {now later : UInt64} {earlier sent : List Http.Request}
    {request other : Http.Request} {result : Except ApiError Http.Response}
    (course : Course authenticator transport kept now later earlier request sent result after)
    (member : other ∈ sent) :
    (∃ time, authenticator.loginRequest time = .ok other) ∨
      ∃ token : Token, other = token.authorize request := by
  cases course with
  | withoutToken failed => exact .inl ⟨_, failed.mem_sent member⟩
  | unanswered obtained failed =>
      rcases List.mem_append.mp member with login | authorized
      · exact .inl ⟨_, obtained.mem_sent login⟩
      · exact .inr ⟨_, List.mem_singleton.mp authorized⟩
  | accepted obtained received isAccepted =>
      rcases List.mem_append.mp member with login | authorized
      · exact .inl ⟨_, obtained.mem_sent login⟩
      · exact .inr ⟨_, List.mem_singleton.mp authorized⟩
  | notRenewed obtained received isRefused failed =>
      rcases List.mem_append.mp member with first | renewal
      · rcases List.mem_append.mp first with login | authorized
        · exact .inl ⟨_, obtained.mem_sent login⟩
        · exact .inr ⟨_, List.mem_singleton.mp authorized⟩
      · exact .inl ⟨_, failed.mem_sent renewal⟩
  | replayed obtained received isRefused obtainedAgain =>
      rcases List.mem_append.mp member with earlier | replay
      · rcases List.mem_append.mp earlier with first | renewal
        · rcases List.mem_append.mp first with login | authorized
          · exact .inl ⟨_, obtained.mem_sent login⟩
          · exact .inr ⟨_, List.mem_singleton.mp authorized⟩
        · exact .inl ⟨_, obtainedAgain.mem_sent renewal⟩
      · exact .inr ⟨_, List.mem_singleton.mp replay⟩

/-- A call takes some course, whatever is kept and whatever is answered. -/
theorem exists_course (authenticator : Authenticator) (transport : Transport) (kept : Option Token)
    (now later : UInt64) (earlier : List Http.Request) (request : Http.Request) :
    ∃ sent result after,
      Course authenticator transport kept now later earlier request sent result after := by
  rcases TokenCourse.exists_course authenticator transport kept now earlier
    with ⟨sent, result, obtained⟩
  cases result with
  | error error => exact ⟨_, _, _, .withoutToken obtained⟩
  | ok token =>
      cases received : transport (earlier ++ (sent ++ [token.authorize request])) with
      | error error => exact ⟨_, _, _, .unanswered obtained received⟩
      | ok response =>
          by_cases isRefused : response.status = 401
          · rcases TokenCourse.exists_course authenticator transport none later
              (earlier ++ (sent ++ [token.authorize request])) with ⟨renewal, result, obtainedAgain⟩
            cases result with
            | error error => exact ⟨_, _, _, .notRenewed obtained received isRefused obtainedAgain⟩
            | ok renewed => exact ⟨_, _, _, .replayed obtained received isRefused obtainedAgain⟩
          · exact ⟨_, _, _, .accepted obtained received isRefused⟩

/-- A call goes in exactly one way: nothing but what its course says is sent, it ends as its course
says, and what is kept afterwards is what its course says. The requests that are sent with a token
are copies of the request with the header of that token. -/
theorem execute_replays_once (authenticator : Authenticator) (transport : Transport)
    (clock : Nat → UInt64) (routes : Routes) (maxPages : Nat) (kept : Option Token)
    (earlier : List Http.Request) (readings : Nat) (request : Http.Request) :
    (∀ sent result after,
      Course authenticator transport kept (clock readings) (clock (readings + 1)) earlier request
          sent result after ↔
        let client : Client Traffic := ⟨⟨transport.host clock, authenticator⟩, routes, maxPages⟩
        let ended := (client.execute request).perform ⟨kept, ⟨earlier, readings⟩⟩
        ended.1 = result ∧ ended.2.token = after ∧ ended.2.world.sent = earlier ++ sent) ∧
      ∀ token : Token, request.IsCopyWith token.header (token.authorize request) := by
  refine ⟨fun sent result after => ?_, fun token => token.isCopyWith_authorize request⟩
  constructor
  · intro course client ended
    rcases course.perform_execute client rfl with ⟨_, performed⟩
    have whole : ended = _ := performed
    rw [whole]
    exact ⟨rfl, rfl, rfl⟩
  · intro same
    rcases exists_course authenticator transport kept (clock readings) (clock (readings + 1))
      earlier
      request with ⟨actual, ending, left, follows⟩
    rcases follows.perform_execute ⟨⟨transport.host clock, authenticator⟩, routes, maxPages⟩ rfl
      with ⟨_, performed⟩
    simp only [performed] at same
    rcases same with ⟨rfl, rfl, sentThen⟩
    rw [← List.append_cancel_left sentThen]
    exact follows

end Client

end CloudAdmin
