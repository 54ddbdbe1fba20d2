import CloudAdmin.Proofs.Client.Coupling
import CloudAdmin.Proofs.Client.Interleaving
import CloudAdmin.ClientCall

/-!
# How often a client logs in

A client logs in because it has no token, because its token was refused, or because its session was
ended; a clock that stands still lets no token expire. So each login that brings a token is paid for
by something that took the one before it. The account is kept over a story, which tells what was
sent and what was answered to it, where the session was to end, and what was sent to that end. What
carries the proof is a reserve: as long as no fresh token is kept, one more login is already paid
for. Main statement: in every part of a story the logins that brought a token are at most one more
than the refused requests and the ends of sessions; a login that fails leaves the kept token alone;
and a client that has ended its session keeps no token, and begins the next call that sends anything
with a login.
-/

namespace CloudAdmin

/-- A request and what became of it. -/
structure Exchange where
  request : Http.Request
  answer : Except ApiError Http.Response

/-- Something that happens to a client: it sends a request for the sake of a call, it is told to end
its session, or it sends a request to that end. -/
inductive Incident where
  | exchange (exchange : Exchange)
  | logout
  | teardown (exchange : Exchange)

section Stories

/-- The exchanges of some requests that are sent after others. -/
def Transport.exchanges (transport : Transport) :
    List Http.Request → List Http.Request → List Exchange
  | _, [] => []
  | earlier, request :: rest =>
      ⟨request, transport (earlier ++ [request])⟩ ::
        transport.exchanges (earlier ++ [request]) rest

@[simp]
theorem Transport.exchanges_append (transport : Transport)
    (earlier first second : List Http.Request) :
    transport.exchanges earlier (first ++ second) =
      transport.exchanges earlier first ++ transport.exchanges (earlier ++ first) second := by
  induction first generalizing earlier with
  | nil => simp [exchanges]
  | cons request rest ih => simp [exchanges, ih]

/-- What happens when some requests are sent after others. -/
def Transport.incidents (transport : Transport) (earlier sent : List Http.Request) :
    List Incident :=
  (transport.exchanges earlier sent).map .exchange

@[simp]
theorem Transport.incidents_append (transport : Transport)
    (earlier first second : List Http.Request) :
    transport.incidents earlier (first ++ second) =
      transport.incidents earlier first ++ transport.incidents (earlier ++ first) second := by
  simp [incidents]

/-- What a call lets happen, given the requests that were sent before it and for its sake. -/
def ClientCall.incidents (transport : Transport) (earlier sent : List Http.Request) :
    ClientCall → List Incident
  | .service _ | .execute _ => transport.incidents earlier sent
  | .logout => .logout :: (transport.exchanges earlier sent).map .teardown

/-- What happens to a client when one call after the other is made. -/
def Client.story (client : Client Traffic) (transport : Transport) :
    List ClientCall → SessionState Traffic → List Incident
  | [], _ => []
  | call :: rest, state =>
      let after := ((client.serve call).perform state).2
      let sent := after.world.sent.drop state.world.sent.length
      call.incidents transport state.world.sent sent ++ client.story transport rest after

/-- Whether a login was answered with a token. -/
def Exchange.isLogin (authenticator : Authenticator) (now : UInt64) : Exchange → Bool
  | ⟨request, .ok response⟩ =>
      authenticator.isLogin request && (authenticator.readLogin response now).isOk
  | ⟨_, .error _⟩ => false

namespace Incident

/-- Whether something is a login that brings a token, also if it happens on the way to the end of a
session. -/
def isLogin (authenticator : Authenticator) (now : UInt64) : Incident → Bool
  | .exchange told | .teardown told => told.isLogin authenticator now
  | .logout => false

/-- Whether something is a request other than a login whose token is refused. What is said to the
end of a session is no such request. -/
def isRefusal (authenticator : Authenticator) : Incident → Bool
  | .exchange ⟨request, .ok response⟩ =>
      !authenticator.isLogin request && response.status == 401
  | .exchange ⟨_, .error _⟩ | .logout | .teardown _ => false

def isLogout : Incident → Bool
  | .logout => true
  | .exchange _ | .teardown _ => false

end Incident

end Stories

section Accounts

/-- Whether the logins in a story are paid for, and so many more. -/
def PaysFor (authenticator : Authenticator) (now : UInt64) (due : Nat) (story : List Incident) :
    Prop :=
  story.countP (·.isLogin authenticator now) + due ≤
    1 + story.countP (·.isRefusal authenticator) + story.countP (·.isLogout)

theorem PaysFor.withoutDue {authenticator : Authenticator} {now : UInt64} {due : Nat}
    {story : List Incident} (pays : PaysFor authenticator now due story) :
    PaysFor authenticator now 0 story := by
  unfold PaysFor at *
  omega

/-- How many logins the next request takes: one, unless a fresh token is kept. -/
def loginsDue (now : UInt64) (kept : Option Token) : Nat :=
  if kept.any (·.isFresh now) then 0 else 1

/-- Whether all logins of a story were paid for when they happened, and those that are due are. -/
structure IsThrifty (authenticator : Authenticator) (now : UInt64) (kept : Option Token)
    (story : List Incident) : Prop where
  always : ∀ part, part <+: story → PaysFor authenticator now 0 part
  reserve : PaysFor authenticator now (loginsDue now kept) story

variable {authenticator : Authenticator} {now : UInt64} {kept : Option Token}
  {story : List Incident}

theorem loginsDue_le_one (now : UInt64) (kept : Option Token) : loginsDue now kept ≤ 1 := by
  unfold loginsDue
  split <;> omega

theorem loginsDue_of_stale (stale : kept.filter (·.isFresh now) = none) :
    loginsDue now kept = 1 := by
  cases kept with
  | none => rfl
  | some token =>
      have notFresh : ¬token.isFresh now = true := by simpa [Option.filter] using stale
      rw [loginsDue, Option.any_some, if_neg notFresh]

theorem loginsDue_of_fresh {token : Token} (fresh : token.isFresh now = true) :
    loginsDue now (some token) = 0 := by
  rw [loginsDue, Option.any_some, if_pos fresh]

theorem isThrifty_nil (authenticator : Authenticator) (now : UInt64) (kept : Option Token) :
    IsThrifty authenticator now kept [] where
  always part inside := by simp [List.prefix_nil.mp inside, PaysFor]
  reserve := by simpa [PaysFor] using loginsDue_le_one now kept

/-- One more incident: a login uses up what was due, and a refusal or the end of a session pays. -/
theorem IsThrifty.add (thrifty : IsThrifty authenticator now kept story) {incident : Incident}
    {left : Option Token}
    (paid : (incident.isLogin authenticator now).toNat + loginsDue now left ≤
      loginsDue now kept + (incident.isRefusal authenticator).toNat + incident.isLogout.toNat) :
    IsThrifty authenticator now left (story ++ [incident]) := by
  have reserve : PaysFor authenticator now (loginsDue now left) (story ++ [incident]) := by
    have before := thrifty.reserve
    have more (counts : Incident → Bool) :
        (story ++ [incident]).countP counts = story.countP counts + (counts incident).toNat := by
      cases counted : counts incident <;> simp [counted]
    simp only [PaysFor, more] at before ⊢
    omega
  refine ⟨fun part inside => ?_, reserve⟩
  rcases List.prefix_concat_iff.mp inside with rfl | earlier
  · exact reserve.withoutDue
  · exact thrifty.always part earlier

/-- What is no login that brings a token needs not be paid for. -/
theorem IsThrifty.addOther (thrifty : IsThrifty authenticator now kept story) {incident : Incident}
    (noLogin : incident.isLogin authenticator now = false) :
    IsThrifty authenticator now kept (story ++ [incident]) := by
  refine thrifty.add ?_
  rw [noLogin, Bool.toNat_false]
  omega

/-- A refused token and the end of a session pay for the next login. -/
theorem IsThrifty.addPayment (thrifty : IsThrifty authenticator now kept story)
    {incident : Incident} (noLogin : incident.isLogin authenticator now = false)
    (pays : incident.isRefusal authenticator = true ∨ incident.isLogout = true)
    (left : Option Token) : IsThrifty authenticator now left (story ++ [incident]) := by
  have atMost := loginsDue_le_one now left
  refine thrifty.add ?_
  rw [noLogin, Bool.toNat_false]
  rcases pays with isRefusal | isLogout
  · rw [isRefusal, Bool.toNat_true]
    omega
  · rw [isLogout, Bool.toNat_true]
    omega

/-- A login that is due may bring a fresh token. -/
theorem IsThrifty.addLogin (thrifty : IsThrifty authenticator now kept story)
    (stale : kept.filter (·.isFresh now) = none) {token : Token} (fresh : token.isFresh now = true)
    (incident : Incident) : IsThrifty authenticator now (some token) (story ++ [incident]) := by
  have atMost := Bool.toNat_le (incident.isLogin authenticator now)
  refine thrifty.add ?_
  rw [loginsDue_of_stale stale, loginsDue_of_fresh fresh]
  omega

end Accounts

section Calls

/-- Whether every login that brings a token brings one that is fresh at a time. -/
def Transport.GrantsFresh (transport : Transport) (authenticator : Authenticator) (now : UInt64) :
    Prop :=
  ∀ earlier login response token, authenticator.loginRequest now = .ok login →
    transport (earlier ++ [login]) = .ok response →
      authenticator.readLogin response now = .ok token → token.isFresh now = true

variable {authenticator : Authenticator} {transport : Transport} {now : UInt64}
  {kept : Option Token} {earlier : List Http.Request} {story : List Incident}

/-- Obtaining a token is thrifty: there is only a login if one was due, and it brings a fresh token
or leaves the kept one. -/
theorem TokenCourse.isThrifty (grants : transport.GrantsFresh authenticator now)
    {sent : List Http.Request} {result : Except ApiError Token}
    (course : TokenCourse authenticator transport kept now earlier sent result)
    (thrifty : IsThrifty authenticator now kept story) :
    IsThrifty authenticator now (keptAfter kept result)
      (story ++ transport.incidents earlier sent) := by
  cases course with
  | reused present fresh =>
      rcases present with rfl
      simpa [Transport.incidents, Transport.exchanges, keptAfter] using thrifty
  | unbuilt stale unbuildable =>
      simpa [Transport.incidents, Transport.exchanges, keptAfter] using thrifty
  | unanswered stale built failed =>
      exact thrifty.addOther (by simp [Incident.isLogin, Exchange.isLogin, failed])
  | @answered login response stale built received =>
      cases read : authenticator.readLogin response now with
      | error error =>
          refine thrifty.addOther ?_
          simp [Incident.isLogin, Exchange.isLogin, received, read, Except.isOk, Except.toBool]
      | ok token =>
          exact thrifty.addLogin stale (grants earlier login response token built received read) _

theorem Exchange.isLogin_authorize (authenticator : Authenticator) (now : UInt64) (token : Token)
    (request : Http.Request) (answer : Except ApiError Http.Response) :
    Exchange.isLogin authenticator now ⟨token.authorize request, answer⟩ = false := by
  cases answer <;> simp [isLogin, Authenticator.isLogin_authorize]

theorem Incident.isRefusal_authorize (authenticator : Authenticator) (token : Token)
    (request : Http.Request) {response : Http.Response} (isRefused : response.status = 401) :
    (exchange ⟨token.authorize request, .ok response⟩).isRefusal authenticator = true := by
  simp [isRefusal, Authenticator.isLogin_authorize, isRefused]

theorem TokenCourse.isThrifty_sending (grants : transport.GrantsFresh authenticator now)
    {sent : List Http.Request} {token : Token}
    (obtained : TokenCourse authenticator transport kept now earlier sent (.ok token))
    (thrifty : IsThrifty authenticator now kept story) (request : Http.Request) :
    IsThrifty authenticator now (some token)
      (story ++ transport.incidents earlier (sent ++ [token.authorize request])) := by
  rw [Transport.incidents_append, ← List.append_assoc]
  exact (obtained.isThrifty grants thrifty).addOther (Exchange.isLogin_authorize ..)

theorem TokenCourse.isThrifty_refused (grants : transport.GrantsFresh authenticator now)
    {sent : List Http.Request} {token : Token}
    (obtained : TokenCourse authenticator transport kept now earlier sent (.ok token))
    (thrifty : IsThrifty authenticator now kept story) {request : Http.Request}
    {response : Http.Response}
    (received : transport (earlier ++ (sent ++ [token.authorize request])) = .ok response)
    (isRefused : response.status = 401) :
    IsThrifty authenticator now none
      (story ++ transport.incidents earlier (sent ++ [token.authorize request])) := by
  rw [Transport.incidents_append, ← List.append_assoc]
  refine (obtained.isThrifty grants thrifty).addPayment ?_ (.inl ?_) none
  · exact Exchange.isLogin_authorize ..
  · rw [List.append_assoc, received]
    exact Incident.isRefusal_authorize authenticator token request isRefused

/-- Sending a request is thrifty, and the second login of a call is paid for by the refusal. -/
theorem Client.Course.isThrifty (grants : transport.GrantsFresh authenticator now)
    {request : Http.Request} {sent : List Http.Request} {result : Except ApiError Http.Response}
    {after : Option Token}
    (course : Course authenticator transport kept now now earlier request sent result after)
    (thrifty : IsThrifty authenticator now kept story) :
    IsThrifty authenticator now after (story ++ transport.incidents earlier sent) := by
  cases course with
  | withoutToken failed => exact failed.isThrifty grants thrifty
  | unanswered obtained failed => exact obtained.isThrifty_sending grants thrifty request
  | accepted obtained received isAccepted =>
      exact obtained.isThrifty_sending grants thrifty request
  | notRenewed obtained received isRefused failed =>
      have paid := obtained.isThrifty_refused grants thrifty received isRefused
      rw [Transport.incidents_append _ _ (_ ++ _), ← List.append_assoc]
      exact failed.isThrifty grants paid
  | replayed obtained received isRefused obtainedAgain =>
      have paid := obtained.isThrifty_refused grants thrifty received isRefused
      rw [List.append_assoc _ _ [_], Transport.incidents_append _ _ (_ ++ [_]), ← List.append_assoc]
      exact obtainedAgain.isThrifty_sending grants paid request

end Calls

section Serving

/-- The world of a transport, with a clock for tokens that stands still. -/
def Transport.hostAt (now : UInt64) (wall : Nat → UInt64) (transport : Transport) :
    Host Traffic :=
  { transport.host (fun _ => now) with
    wallClock := fun traffic =>
      (wall traffic.readings, { traffic with readings := traffic.readings + 1 }) }

namespace Client

variable {authenticator : Authenticator} {transport : Transport} {now : UInt64}
  {wall : Nat → UInt64} {client : Client Traffic} {state : SessionState Traffic}

/-- The clock by which measurements are asked for plays no part in sending a request. -/
theorem exists_course_execute
    (session : client.session = ⟨transport.hostAt now wall, authenticator⟩)
    (request : Http.Request) (state : SessionState Traffic) :
    ∃ sent result after later,
      Course authenticator transport state.token now now state.world.sent request sent result
          after ∧
        (client.execute request).perform state =
          (result, ⟨after, ⟨state.world.sent ++ sent, later⟩⟩) := by
  rcases client with ⟨_, routes, maxPages⟩
  simp only at session
  subst session
  rcases state with ⟨kept, ⟨earlier, readings⟩⟩
  rcases exists_course authenticator transport kept now now earlier request
    with ⟨sent, result, after, course⟩
  rcases @Course.perform_execute _ _ (fun _ => now) _ _ _ _ readings _ _ course
    ⟨⟨transport.host fun _ => now, authenticator⟩, routes, maxPages⟩ rfl with ⟨later, performed⟩
  exact ⟨sent, result, after, later, course, performed⟩

theorem perform_serve_service {World : Type} {client : Client World} {state : SessionState World}
    (call : ServiceCall) :
    ((client.serve (.service call)).perform state).2 = ((client.run call).perform state).2 := by
  simp only [serve, Action.perform_bind]
  rcases (client.run call).perform state with ⟨_ | _, _⟩ <;> rfl

theorem perform_serve_execute {World : Type} {client : Client World} {state : SessionState World}
    (request : Http.Request) :
    ((client.serve (.execute request)).perform state).2 =
      ((client.execute request).perform state).2 := by
  simp only [serve, Action.perform_bind]
  rcases (client.execute request).perform state with ⟨_ | _, _⟩ <;> rfl

theorem perform_serve_logout {World : Type} {client : Client World} {state : SessionState World} :
    ((client.serve .logout).perform state).2 = (client.logout.perform state).2 := by
  simp only [serve, Action.perform_bind]
  rcases client.logout.perform state with ⟨_ | _, _⟩ <;> rfl

theorem token_serve_logout {World : Type} (client : Client World) (state : SessionState World) :
    ((client.serve .logout).perform state).2.token = none := by
  rw [perform_serve_logout, logout, Session.perform_logout]
  split
  · rfl
  · dsimp only
    split <;> rfl

/-- What is sent to the end of a session carries the token of the session, if anything is sent. -/
theorem exists_sent_logout
    (session : client.session = ⟨transport.hostAt now wall, authenticator⟩) :
    ∃ sent, ((client.serve .logout).perform state).2.world.sent = state.world.sent ++ sent ∧
      (sent = [] ∨ ∃ token request, sent = [Token.authorize request token]) := by
  rw [perform_serve_logout, logout, session, Session.perform_logout]
  cases ends : state.token.bind fun token => authenticator.logoutRequest? token with
  | none => exact ⟨[], by simp, .inl rfl⟩
  | some request =>
      rcases Option.bind_eq_some_iff.mp ends with ⟨token, -, isEnd⟩
      have carries := congrArg ([·]) (Authenticator.eq_of_logoutRequest? isEnd)
      refine ⟨[request], ?_, .inr ⟨token, _, carries⟩⟩
      dsimp only
      split <;> rfl

/-- Whether some requests have been sent after others and the story is thrifty with them. -/
def HasBeenThrifty (authenticator : Authenticator) (transport : Transport) (now : UInt64)
    (earlier : List Http.Request) (story : List Incident) (state : SessionState Traffic) : Prop :=
  ∃ sent, state.world.sent = earlier ++ sent ∧
    IsThrifty authenticator now state.token (story ++ transport.incidents earlier sent)

theorem hasBeenThrifty_execute (grants : transport.GrantsFresh authenticator now)
    (session : client.session = ⟨transport.hostAt now wall, authenticator⟩)
    {earlier : List Http.Request} {story : List Incident} (request : Http.Request)
    (thrifty : HasBeenThrifty authenticator transport now earlier story state) :
    HasBeenThrifty authenticator transport now earlier story
      ((client.execute request).perform state).2 := by
  rcases thrifty with ⟨before, split, thrifty⟩
  rcases exists_course_execute session request state
    with ⟨sent, result, after, later, course, performed⟩
  rw [performed]
  refine ⟨before ++ sent, by simp [split], ?_⟩
  rw [Transport.incidents_append, ← List.append_assoc, ← split]
  exact course.isThrifty grants thrifty

/-- Whatever is asked of a client, it is thrifty. -/
theorem isThrifty_serve (grants : transport.GrantsFresh authenticator now)
    (session : client.session = ⟨transport.hostAt now wall, authenticator⟩) (call : ClientCall)
    {story : List Incident} (thrifty : IsThrifty authenticator now state.token story) :
    let after := ((client.serve call).perform state).2
    IsThrifty authenticator now after.token (story ++ call.incidents transport state.world.sent
      (after.world.sent.drop state.world.sent.length)) := by
  intro after
  have start : HasBeenThrifty authenticator transport now state.world.sent story state :=
    ⟨[], by simp, by simpa [Transport.incidents, Transport.exchanges] using thrifty⟩
  have told (ended : HasBeenThrifty authenticator transport now state.world.sent story after) :
      IsThrifty authenticator now after.token (story ++ transport.incidents state.world.sent
        (after.world.sent.drop state.world.sent.length)) := by
    rcases ended with ⟨sent, split, thriftyThen⟩
    rw [split, List.drop_left]
    exact thriftyThen
  cases call with
  | service call =>
      refine told ?_
      rw [show after = _ from perform_serve_service call]
      refine client.run_keeps (fun request _ => hasBeenThrifty_execute grants session request) ?_
        call start
      rintro other ⟨sent, split, thriftyThen⟩
      rw [session]
      exact ⟨sent, split, thriftyThen⟩
  | execute request =>
      refine told ?_
      rw [show after = _ from perform_serve_execute request]
      exact hasBeenThrifty_execute grants session request start
  | logout =>
      rcases exists_sent_logout session with ⟨sent, split, teardown⟩
      rw [split, List.drop_left, ClientCall.incidents]
      have marked : IsThrifty authenticator now after.token (story ++ [.logout]) :=
        thrifty.addPayment rfl (.inr rfl) after.token
      rcases teardown with rfl | ⟨token, request, rfl⟩
      · exact marked
      · have closed : IsThrifty authenticator now after.token (story ++ [.logout] ++
            (transport.exchanges state.world.sent [token.authorize request]).map .teardown) :=
          marked.addOther (Exchange.isLogin_authorize ..)
        rwa [List.append_assoc] at closed

theorem isThrifty_story (grants : transport.GrantsFresh authenticator now)
    (session : client.session = ⟨transport.hostAt now wall, authenticator⟩)
    (calls : List ClientCall) {story : List Incident}
    (thrifty : IsThrifty authenticator now state.token story) :
    ∃ left, IsThrifty authenticator now left (story ++ client.story transport calls state) := by
  induction calls generalizing state story with
  | nil => exact ⟨state.token, by simpa [Client.story] using thrifty⟩
  | cons call rest ih =>
      rw [Client.story, ← List.append_assoc]
      exact ih (isThrifty_serve grants session call thrifty)

end Client

end Serving

section Beginning

theorem Session.token_of_failed_login {World : Type} (session : Session World)
    {state : SessionState World} {error : ApiError}
    (failed : (session.token.perform state).1 = .error error) :
    (session.token.perform state).2.token = state.token := by
  rw [perform_token] at failed ⊢
  dsimp only at failed ⊢
  split at failed
  · cases failed
  · rw [perform_login] at failed ⊢
    dsimp only at failed ⊢
    split at failed
    · rfl
    · split at failed
      · rfl
      · split at failed
        · rfl
        · cases failed

variable {authenticator : Authenticator} {transport : Transport} {now : UInt64}
  {wall : Nat → UInt64} {client : Client Traffic} {state : SessionState Traffic}

/-- Whether some requests are a login and maybe others. -/
def BeginsWithLogin (authenticator : Authenticator) (now : UInt64) (sent : List Http.Request) :
    Prop :=
  ∃ login rest, authenticator.loginRequest now = .ok login ∧ sent = login :: rest

/-- Without a token there is a login, unless none can be built. -/
theorem TokenCourse.beginsWithLogin {earlier sent : List Http.Request}
    {result : Except ApiError Token}
    (course : TokenCourse authenticator transport none now earlier sent result) :
    (sent = [] ∧ ∃ error, authenticator.loginRequest now = .error error ∧ result = .error error) ∨
      BeginsWithLogin authenticator now sent := by
  cases course with
  | reused present fresh => cases present
  | unbuilt stale unbuildable => exact .inl ⟨rfl, _, unbuildable, rfl⟩
  | unanswered stale built failed => exact .inr ⟨_, [], built, rfl⟩
  | answered stale built received => exact .inr ⟨_, [], built, rfl⟩

theorem BeginsWithLogin.append {sent : List Http.Request}
    (begins : BeginsWithLogin authenticator now sent) (others : List Http.Request) :
    BeginsWithLogin authenticator now (sent ++ others) := by
  rcases begins with ⟨login, rest, built, rfl⟩
  exact ⟨login, rest ++ others, built, rfl⟩

theorem TokenCourse.beginsWithLogin_of_ok {earlier sent : List Http.Request} {token : Token}
    (course : TokenCourse authenticator transport none now earlier sent (.ok token)) :
    BeginsWithLogin authenticator now sent := by
  rcases course.beginsWithLogin with ⟨-, error, -, impossible⟩ | begins
  · cases impossible
  · exact begins

theorem Client.Course.beginsWithLogin {earlier sent : List Http.Request} {request : Http.Request}
    {result : Except ApiError Http.Response} {after : Option Token} {later : UInt64}
    (course : Course authenticator transport none now later earlier request sent result after) :
    (sent = [] ∧ after = none ∧ ∃ error, authenticator.loginRequest now = .error error) ∨
      BeginsWithLogin authenticator now sent := by
  cases course with
  | withoutToken failed =>
      rcases failed.beginsWithLogin with ⟨nothing, error, unbuildable, -⟩ | begins
      · exact .inl ⟨nothing, rfl, error, unbuildable⟩
      · exact .inr begins
  | unanswered obtained failed => exact .inr (obtained.beginsWithLogin_of_ok.append _)
  | accepted obtained received isAccepted => exact .inr (obtained.beginsWithLogin_of_ok.append _)
  | notRenewed obtained received isRefused failed =>
      exact .inr ((obtained.beginsWithLogin_of_ok.append _).append _)
  | replayed obtained received isRefused obtainedAgain =>
      exact .inr (((obtained.beginsWithLogin_of_ok.append _).append _).append _)

namespace Client

/-- Without a token, a request begins with a login if that can be built. -/
theorem execute_beginsWithLogin
    (session : client.session = ⟨transport.hostAt now wall, authenticator⟩)
    (request : Http.Request) (noToken : state.token = none) :
    let after := ((client.execute request).perform state).2
    ∃ sent, after.world.sent = state.world.sent ++ sent ∧
      ((sent = [] ∧ after.token = none ∧ ∃ error, authenticator.loginRequest now = .error error) ∨
        BeginsWithLogin authenticator now sent) := by
  intro after
  rcases exists_course_execute session request state
    with ⟨sent, result, left, later, course, performed⟩
  rw [show after = _ from congrArg Prod.snd performed]
  rw [noToken] at course
  exact ⟨sent, rfl, course.beginsWithLogin⟩

/-- Whether nothing has been sent after some requests and no token is kept, or what has been sent
begins with a login. -/
def HasBegunWithLogin (authenticator : Authenticator) (now : UInt64) (earlier : List Http.Request)
    (state : SessionState Traffic) : Prop :=
  (state.token = none ∧ state.world.sent = earlier) ∨
    ∃ sent, state.world.sent = earlier ++ sent ∧ BeginsWithLogin authenticator now sent

theorem hasBegunWithLogin_execute
    (session : client.session = ⟨transport.hostAt now wall, authenticator⟩)
    {earlier : List Http.Request} (request : Http.Request)
    (begun : HasBegunWithLogin authenticator now earlier state) :
    HasBegunWithLogin authenticator now earlier ((client.execute request).perform state).2 := by
  rcases begun with ⟨noToken, rfl⟩ | ⟨before, split, begins⟩
  · rcases execute_beginsWithLogin session request noToken
      with ⟨sent, split, ⟨rfl, stillNone, -⟩ | begins⟩
    · exact .inl ⟨stillNone, by simpa using split⟩
    · exact .inr ⟨sent, split, begins⟩
  · rcases exists_course_execute session request state
      with ⟨sent, result, after, later, -, performed⟩
    rw [performed]
    exact .inr ⟨before ++ sent, by simp [split], begins.append sent⟩

/-- Without a token, a call begins with a login if it sends anything. -/
theorem run_beginsWithLogin
    (session : client.session = ⟨transport.hostAt now wall, authenticator⟩) (call : ServiceCall)
    (noToken : state.token = none) :
    HasBegunWithLogin authenticator now state.world.sent ((client.run call).perform state).2 := by
  refine client.run_keeps (fun request _ => hasBegunWithLogin_execute session request) ?_ call
    (.inl ⟨noToken, rfl⟩)
  intro other begun
  rw [session]
  exact begun

end Client

end Beginning

/-- Whatever is asked of a client while its clock stands still, and whatever it is answered, as long
as logins bring fresh tokens: in every part of what happens there is at most one login that brings a
token more than there are refused requests and ends of the session. A login that fails leaves the
kept token as it was. Once the session was ended, whatever its host said to that, no token is kept:
the next request is preceded by a login, and the next call of a product begins with one if it sends
anything. -/
theorem Client.logins_are_paid_for {authenticator : Authenticator} {transport : Transport}
    {now : UInt64} (grants : transport.GrantsFresh authenticator now) (wall : Nat → UInt64)
    (routes : Routes) (maxPages : Nat) (calls : List ClientCall) (state : SessionState Traffic) :
    let client : Client Traffic := ⟨⟨transport.hostAt now wall, authenticator⟩, routes, maxPages⟩
    (∀ part, part <+: client.story transport calls state →
      part.countP (·.isLogin authenticator now) ≤
        1 + part.countP (·.isRefusal authenticator) + part.countP (·.isLogout)) ∧
    (∀ error, (client.session.token.perform state).1 = .error error →
      (client.session.token.perform state).2.token = state.token) ∧
    let ended := ((client.serve .logout).perform state).2
    ended.token = none ∧
      (∀ request login, authenticator.loginRequest now = .ok login →
        ∃ rest, ((client.serve (.execute request)).perform ended).2.world.sent =
          ended.world.sent ++ login :: rest) ∧
      ∀ call, let after := ((client.serve (.service call)).perform ended).2
        after.world.sent = ended.world.sent ∨
          ∃ login rest, authenticator.loginRequest now = .ok login ∧
            after.world.sent = ended.world.sent ++ login :: rest := by
  intro client
  refine ⟨fun part inside => ?_, fun error => client.session.token_of_failed_login, ?_⟩
  · rcases @isThrifty_story _ _ _ wall client _ grants rfl calls _ (isThrifty_nil _ _ state.token)
      with ⟨left, thrifty⟩
    exact thrifty.always part inside
  · intro ended
    have noToken : ended.token = none := client.token_serve_logout state
    refine ⟨noToken, fun request login built => ?_, fun call => ?_⟩
    · rw [perform_serve_execute]
      rcases @execute_beginsWithLogin _ _ _ wall client _ rfl request noToken
        with ⟨sent, split, ⟨-, -, error, unbuildable⟩ | ⟨first, rest, builtFirst, rfl⟩⟩
      · rw [built] at unbuildable
        cases unbuildable
      · rw [built] at builtFirst
        rcases Except.ok.inj builtFirst with rfl
        exact ⟨rest, split⟩
    · rw [perform_serve_service]
      rcases @run_beginsWithLogin _ _ _ wall client _ rfl call noToken
        with ⟨-, nothing⟩ | ⟨sent, split, login, rest, built, rfl⟩
      · exact .inl nothing
      · exact .inr ⟨login, rest, built, split⟩

/-- An administrator whose session ends with a request. -/
def sessionAdministrator : Authenticator :=
  .ofRoot "http://127.0.0.1" (.zia "admin" "secret" "abcdefghijkl")

/-- A server that grants a session to everybody, refuses the second request that it gets, and does
not let anybody end a session. -/
def unending : Transport := fun sent =>
  if sent.length = 2 ∨ sent.getLast?.map (·.method) = some .delete then .ok ⟨401, [], ""⟩
  else .ok ⟨200, [("set-cookie", "JSESSIONID=S1")], ""⟩

theorem unending_grantsFresh : unending.GrantsFresh sessionAdministrator 0 := by
  intro earlier login response token built received read
  unfold unending at received
  split at received
  · rcases Except.ok.inj received with rfl
    simp [Authenticator.readLogin, Http.Response.isSuccess] at read
  · rcases Except.ok.inj received with rfl
    have known : sessionAdministrator.readLogin
        ⟨200, [("set-cookie", "JSESSIONID=S1")], ""⟩ 0 =
          .ok ⟨"S1", .sessionCookie, Authenticator.sessionLifetime⟩ :=
      eq_ok_of_toOption (by decide +kernel)
    rcases Except.ok.inj (known.symm.trans read) with rfl
    decide

/-- A refused token and the end of a session cost three logins. That the server refused to end the
session as well costs none. -/
theorem Client.three_logins_are_paid_for :
    let client : Client Traffic :=
      ⟨⟨unending.hostAt 0 fun _ => 0, sessionAdministrator⟩,
        .ownHost .zia "http://127.0.0.1" none, 1⟩
    let request := ClientCall.execute (.read "http://127.0.0.1/a")
    let story := client.story unending [request, .logout, request] ⟨none, ⟨[], 0⟩⟩
    story.length = 8 ∧ story.countP (·.isLogin sessionAdministrator 0) = 3 ∧
      story.countP (·.isRefusal sessionAdministrator) = 1 ∧ story.countP (·.isLogout) = 1 ∧
      story.countP (·.isLogin sessionAdministrator 0) ≤
        1 + story.countP (·.isRefusal sessionAdministrator) + story.countP (·.isLogout) := by
  intro client request story
  refine ⟨by decide +kernel, by decide +kernel, by decide +kernel, by decide +kernel, ?_⟩
  exact (logins_are_paid_for unending_grantsFresh (fun _ => 0) _ 1 _ _).1 story
    (List.prefix_refl story)

end CloudAdmin
