import CloudAdmin.Proofs.Sandbox.Serving
import CloudAdmin.Proofs.Session.LoginRequest

/-!
# Clients of a sandbox

A client reaches a sandbox through a host that passes its requests on. In between, all tokens may be
taken back at any time but one: when a request was refused and the client has logged in anew, the
request that it sends then finds the new token still good. Main statement: whatever token a client
keeps, a request for a resource yields what the sandbox serves to a good token, and the sandbox
holds the same afterwards.
-/

namespace CloudAdmin.Sandbox

/-- Whether a sandbox accepts the credentials of a client at a time: the client's login addresses
the path that the sandbox has for its flow, can be built, and is answered with success. -/
structure Accepts (supply : TokenSupply) (authenticator : Authenticator) (now : UInt64) : Prop where
  pointed : ∃ url, Url.parse authenticator.loginUrl = .ok url ∧
    url.target = (Authenticator.loginPath authenticator.credentials.flow).toList
  welcomed : ∃ login response state, authenticator.loginRequest now = .ok login ∧
    (send supply login state).1 = .ok response ∧ response.isSuccess = true

/-- Whether a request is passed on to a sandbox in some state. -/
def PassesOn {World : Type} (supply : TokenSupply) (host : Host World) (sandbox : World → State)
    (request : Http.Request) (world : World) (state : State) : Prop :=
  (host.send request world).1 = (send supply request state).1 ∧
    sandbox (host.send request world).2 = (send supply request state).2

/-- Whether a host leads to a sandbox that accepts a client at all times. All tokens may be taken
back before a request is passed on, unless it follows a login that follows a refusal. Answers come
back whole: those that are meant have no more bytes than `Settings.maxResponseBytes` allows. -/
structure Reaches {World : Type} (supply : TokenSupply) (authenticator : Authenticator)
    (host : Host World) (sandbox : World → State) : Prop where
  issues : ∀ login, IsTokenText (supply login)
  accepts : ∀ world, Accepts supply authenticator (host.sessionClock world).1
  keeps : ∀ world, sandbox (host.sessionClock world).2 = sandbox world
  passes : ∀ request world, PassesOn supply host sandbox request world (sandbox world) ∨
    PassesOn supply host sandbox request world (sandbox world).revokeAll
  spares : ∀ refused response login welcome request world,
    (host.send refused world).1 = .ok response → response.status = 401 →
      login.method = .post → login.url = authenticator.loginUrl →
        let renewed := host.send login (host.sessionClock (host.send refused world).2).2
        renewed.1 = .ok welcome → PassesOn supply host sandbox request renewed.2 (sandbox renewed.2)

section Logins

variable {supply : TokenSupply} {authenticator : Authenticator} {now : UInt64}

theorem loginRequest_addresses {login : Http.Request}
    (built : authenticator.loginRequest now = .ok login) :
    login.method = .post ∧ login.url = authenticator.loginUrl ∧ login.query = [] := by
  rcases Authenticator.exists_body_of_loginRequest built with ⟨body, rfl⟩
  exact ⟨rfl, rfl, rfl⟩

theorem path_ofClient_login (login : Http.Request) {url : Url} (flow : LoginFlow)
    (target : url.target = (Authenticator.loginPath flow).toList) :
    (Request.ofClient login url).path = Authenticator.loginPath flow := by
  simp only [Request.ofClient, Request.ofTarget, target]
  cases flow <;> decide

/-- A login whose URL leads to the path of its flow is handled as a login. -/
theorem send_loginRequest (supply : TokenSupply) {login : Http.Request}
    (built : authenticator.loginRequest now = .ok login)
    {url : Url} (parsed : Url.parse authenticator.loginUrl = .ok url)
    (target : url.target = (Authenticator.loginPath authenticator.credentials.flow).toList)
    (state : State) :
    send supply login state =
      let (reply, after) := loginHandler supply authenticator.credentials.flow
        (Request.ofClient login url) state
      (.ok reply.toResponse, after) := by
  rcases loginRequest_addresses built with ⟨method, address, query⟩
  have full : login.fullUrl = .ok url := by
    simp [Http.Request.fullUrl, address, parsed, query, Url.appendPairs]
  have handled := handle_login supply authenticator.credentials.flow
    (path_ofClient_login login _ target)
    (show (Request.ofClient login url).method = "POST" by
      simp [Request.ofClient, Request.ofTarget, method, Http.Method.name])
  simp only [send, full, handled]

/-- A login that is accepted at all issues the next token, whatever the sandbox keeps. -/
theorem Accepts.send_login (accepts : Accepts supply authenticator now) :
    ∃ login, authenticator.loginRequest now = .ok login ∧ ∀ state,
      send supply login state =
        (.ok (welcome (supply state.logins) authenticator.credentials.flow).toResponse,
          (state.issue supply).2) := by
  rcases accepts.pointed with ⟨url, parsed, target⟩
  rcases accepts.welcomed with ⟨login, response, state, built, answered, success⟩
  refine ⟨login, built, fun other => ?_⟩
  rw [send_loginRequest supply built parsed target] at answered ⊢
  cases isSettled_login supply authenticator.credentials.flow
    (Request.ofClient login url) with
  | accepted always => simp only [always]
  | refused reply failure always =>
      simp only [always] at answered
      rcases Except.ok.inj answered with rfl
      simp [Http.Response.isSuccess, Reply.toResponse] at success
      omega

end Logins

section Executing

variable {World : Type} {supply : TokenSupply} {client : Client World} {sandbox : World → State}

/-- What the sandbox behind a client holds. -/
def held (sandbox : World → State) (state : SessionState World) : Contents :=
  (sandbox state.world).contents

/-- Requests are passed on to a sandbox with the contents of the one behind the host. -/
theorem Reaches.passes_contents {authenticator : Authenticator} {host : Host World}
    (reaches : Reaches supply authenticator host sandbox) (request : Http.Request) (world : World) :
    ∃ state, state.contents = (sandbox world).contents ∧
      PassesOn supply host sandbox request world state := by
  rcases reaches.passes request world with passed | passed
  · exact ⟨_, rfl, passed⟩
  · exact ⟨_, State.contents_revokeAll _, passed⟩

theorem perform_login_of_reaches
    (reaches : Reaches supply client.session.authenticator client.session.host sandbox)
    (kept : Option Token) (world : World) :
    let now := (client.session.host.sessionClock world).1
    let shown := (client.session.host.sessionClock world).2
    ∃ login response token, client.session.authenticator.loginRequest now = .ok login ∧
      (client.session.host.send login shown).1 = .ok response ∧ IsTokenText token.value ∧
      (client.session.login now).perform ⟨kept, shown⟩ =
        (.ok token, ⟨some token, (client.session.host.send login shown).2⟩) ∧
      (sandbox (client.session.host.send login shown).2).contents = (sandbox world).contents ∧
      (sandbox (client.session.host.send login shown).2).accepts token.value = true := by
  intro now shown
  rcases (reaches.accepts world).send_login with ⟨login, built, sent⟩
  rcases reaches.passes_contents login shown with ⟨state, contents, passed, after⟩
  have read := readLogin_welcome (reaches.issues state.logins) client.session.authenticator now
  rw [sent state] at passed after
  let token : Token :=
    ⟨supply state.logins, tokenKind client.session.authenticator.credentials.flow,
      Saturating.add now (lifetime client.session.authenticator.credentials.flow)⟩
  refine ⟨login, _, token, built, passed, reaches.issues state.logins, ?_, ?_, ?_⟩
  · rw [Session.perform_login, built]
    simp only [passed, read]
    rfl
  · rw [after, State.contents_issue, contents, reaches.keeps]
  · rw [after]
    simp [State.accepts, State.issue, token]

/-- A token is always obtained, and obtaining it leaves the contents of the sandbox alone. -/
theorem perform_token_of_reaches
    (reaches : Reaches supply client.session.authenticator client.session.host sandbox)
    (state : SessionState World) :
    ∃ token after, client.session.token.perform state = (.ok token, after) ∧
      held sandbox after = held sandbox state := by
  simp only [Session.perform_token]
  cases state.token.filter (·.isFresh (client.session.host.sessionClock state.world).1) with
  | some token =>
      refine ⟨token, _, rfl, ?_⟩
      simp only [held, reaches.keeps]
  | none =>
      rcases perform_login_of_reaches reaches state.token state.world
          with ⟨login, response, token, -, -, -, performed, contents, -⟩
      exact ⟨token, _, performed, contents⟩

/-- A request for a resource yields what the sandbox serves, and leaves it as if it had been served
at once. -/
theorem perform_execute_of_reaches
    (reaches : Reaches supply client.session.authenticator client.session.host sandbox)
    {request : Http.Request} (isResource : IsResource request.method request.url)
    (only : HasOnlyContentType request) (state : SessionState World) :
    ((client.execute request).perform state).1 = (serve request (held sandbox state)).1 ∧
      held sandbox ((client.execute request).perform state).2 =
        (serve request (held sandbox state)).2 := by
  rcases perform_token_of_reaches reaches state with ⟨token, ready, obtained, same⟩
  rcases reaches.passes_contents (token.authorize request)
      ready.world with ⟨met, contents, passed, after⟩
  have first : met.contents = held sandbox state := contents.trans same
  rw [Client.perform_execute, Client.perform_sendAuthorized, obtained]
  simp only [Session.perform_send]
  rw [passed]
  rcases outcome : send supply (token.authorize request) met with ⟨result, left⟩
  have outcomes := send_outcome supply isResource token met
  rw [outcome] at outcomes after passed
  cases outcomes with
  | served _ sameTokens contentsAfter notRefused =>
      rw [first] at contentsAfter notRefused ⊢
      cases served : (serve request (held sandbox state)).1 with
      | error error => simp only [held, after, contentsAfter, and_self]
      | ok response =>
          simp only [notRefused response served, if_false, held, after, contentsAfter, and_self]
  | refused response status =>
      simp only [status, if_true]
      rcases perform_login_of_reaches reaches none
          (client.session.host.send (token.authorize request) ready.world).2
          with ⟨login, welcome, renewed, built, welcomed, isText, performed, sameAgain, accepted⟩
      rcases loginRequest_addresses built with ⟨method, address, -⟩
      have spared := reaches.spares _ response login welcome (renewed.authorize request)
        ready.world passed status method address welcomed
      rcases send_served supply isResource only isText accepted with ⟨served, afterAll⟩
      have unchanged_ : (sandbox (client.session.host.send (token.authorize request)
          ready.world).2).contents = held sandbox state := by rw [after, first]
      rw [unchanged_] at sameAgain
      rw [Client.perform_sendAuthorized, Session.perform_token]
      simp only [Option.filter_none, performed, Session.perform_send]
      rw [sameAgain] at served afterAll
      refine ⟨spared.1.trans served, ?_⟩
      simp only [held]
      exact (congrArg State.contents spared.2).trans afterAll

end Executing

end CloudAdmin.Sandbox
