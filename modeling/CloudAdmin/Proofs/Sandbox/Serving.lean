import CloudAdmin.Client
import CloudAdmin.Proofs.Client.Replay
import CloudAdmin.Proofs.Sandbox.Handling
import CloudAdmin.Proofs.Sandbox.Login

/-!
# What a sandbox serves

Apart from tokens and logins, a sandbox keeps records and the last id that it gave out. What it
answers to a request for a resource, once the request presents a good token, depends on these alone,
and tokens are not touched by it. A request without a good token is refused before anything is
looked at. This file states both, and concludes that a client whose token is refused, and who then
logs in and sends its request again, gets the answer that it would have got with a good token in the
first place.
-/

namespace CloudAdmin.Sandbox

/-- What a sandbox keeps apart from tokens and logins. -/
structure Contents where
  store : List (String × Items)
  lastId : UInt64

namespace State

/-- The contents of a sandbox. -/
def contents (state : State) : Contents :=
  ⟨state.store, state.lastId⟩

/-- A sandbox with some contents that knows no token. -/
def ofContents (contents : Contents) : State :=
  ⟨[], contents.store, contents.lastId, 0⟩

/-- A sandbox with other tokens and another count of logins. -/
def withTokens (tokens : List String) (logins : Nat) (state : State) : State :=
  { state with tokens, logins }

@[simp]
theorem contents_ofContents (contents : Contents) : (ofContents contents).contents = contents := rfl

@[simp]
theorem contents_withTokens (tokens : List String) (logins : Nat) (state : State) :
    (state.withTokens tokens logins).contents = state.contents := rfl

@[simp]
theorem contents_revokeAll (state : State) : state.revokeAll.contents = state.contents := rfl

@[simp]
theorem contents_issue (supply : TokenSupply) (state : State) :
    (state.issue supply).2.contents = state.contents := rfl

theorem withTokens_ofContents (state : State) :
    (ofContents state.contents).withTokens state.tokens state.logins = state := rfl

end State

section Frame

/-- Whether something that handles a request neither looks at tokens and logins nor changes them. -/
def IgnoresTokens (handle : State → Reply × State) : Prop :=
  ∀ tokens logins state, handle (state.withTokens tokens logins) =
    ((handle state).1, (handle state).2.withTokens tokens logins)

theorem ignoresTokens_handleItem (style : Style) (path : String) (id : UInt64) (method : String)
    (body : Option Json.Value) : IgnoresTokens (handleItem style path id method body) := by
  intro tokens logins state
  have same : (state.withTokens tokens logins).items? path = state.items? path := rfl
  unfold handleItem
  rw [same]
  cases state.items? path with
  | none => rfl
  | some items =>
      simp only [handlePresent]
      split <;> rfl

theorem ignoresTokens_handleCollection (style : Style) (path : String) (request : Request)
    (body : Option Json.Value) : IgnoresTokens (handleCollection style path request body) := by
  intro tokens logins state
  simp only [handleCollection]
  split
  · rfl
  · split <;> rfl
  · rfl

/-- A request with a good token is handled without regard to tokens. -/
theorem ignoresTokens_handleAuthorized (request : Request) :
    IgnoresTokens (handleAuthorized request) := by
  intro tokens logins state
  unfold handleAuthorized
  simp only
  split
  · rfl
  · split
    · rfl
    · split
      · split
        · exact ignoresTokens_handleItem _ _ _ _ _ tokens logins state
        · rfl
      · exact ignoresTokens_handleCollection _ _ _ _ tokens logins state

theorem handleCollection_withHeaders (style : Style) (path : String) (request : Request)
    (headers : Http.Headers) (body : Option Json.Value) (state : State) :
    handleCollection style path { request with headers } body state =
      handleCollection style path request body state := rfl

theorem handleAuthorized_withHeaders (request : Request) (headers : Http.Headers) (state : State) :
    handleAuthorized { request with headers } state = handleAuthorized request state := by
  simp only [handleAuthorized, handleCollection_withHeaders]

end Frame

section Serving

/-- What a client gets for a request with a good token, and what the sandbox holds then. -/
def serve (request : Http.Request) (contents : Contents) :
    Except ApiError Http.Response × Contents :=
  match request.fullUrl with
  | .error error => (.error error, contents)
  | .ok url =>
      let (reply, state) := handleAuthorized (Request.ofClient request url)
        (State.ofContents contents)
      (.ok reply.toResponse, state.contents)

/-- Whether all requests to a URL with a method are for a resource, whatever their query, their
headers and their body: none of the paths that the sandbox keeps for itself is hit. -/
def IsResource (method : Http.Method) (url : String) : Prop :=
  ∀ (supply : TokenSupply) (request : Http.Request) (parsed : Url), request.method = method →
    request.url = url → request.fullUrl = .ok parsed →
      handle supply (Request.ofClient request parsed) =
        handleResource (Request.ofClient request parsed)

theorem handleAuthorized_ofClient (request : Http.Request) (token : Token) (url : Url)
    (state : State) :
    handleAuthorized (Request.ofClient (token.authorize request) url) state =
      let (reply, after) := handleAuthorized (Request.ofClient request url)
        (State.ofContents state.contents)
      (reply, after.withTokens state.tokens state.logins) := by
  have headers := handleAuthorized_withHeaders (Request.ofClient request url)
    (token.authorize request).headers state
  have tokens := ignoresTokens_handleAuthorized (Request.ofClient request url) state.tokens
    state.logins (State.ofContents state.contents)
  rw [State.withTokens_ofContents] at tokens
  exact headers.trans tokens

/-- How a request for a resource may end: it is refused and nothing changes, or it is served as if
its token were good. -/
inductive Outcome (request : Http.Request) (state : State) :
    Except ApiError Http.Response → State → Prop where
  | refused (response : Http.Response) (status : response.status = 401) :
      Outcome request state (.ok response) state
  | served (after : State) (sameTokens : after.tokens = state.tokens)
      (contents : after.contents = (serve request state.contents).2)
      (notRefused : ∀ response, (serve request state.contents).1 = .ok response →
        response.status ≠ 401) :
      Outcome request state (serve request state.contents).1 after

theorem outcome_served {request : Http.Request} {token : Token} {url : Url} {state : State}
    (parsed : request.fullUrl = .ok url) :
    Outcome request state
      (.ok (handleAuthorized (Request.ofClient (token.authorize request) url) state).1.toResponse)
      (handleAuthorized (Request.ofClient (token.authorize request) url) state).2 := by
  have served : (.ok (handleAuthorized (Request.ofClient (token.authorize request) url)
      state).1.toResponse) = (serve request state.contents).1 := by
    simp only [serve, parsed, handleAuthorized_ofClient]
  rw [served]
  refine .served _ ?_ ?_ ?_
  · simp only [handleAuthorized_ofClient]
    rfl
  · simp only [serve, parsed, handleAuthorized_ofClient, State.contents_withTokens]
  · intro response same
    rw [← served] at same
    rcases Except.ok.inj same with rfl
    exact status_handleAuthorized _ _

/-- A request for a resource is refused or served, whatever token it carries. -/
theorem send_outcome (supply : TokenSupply) {request : Http.Request}
    (isResource : IsResource request.method request.url)
    (token : Token) (state : State) :
    Outcome request state (send supply (token.authorize request) state).1
      (send supply (token.authorize request) state).2 := by
  cases parsed : request.fullUrl with
  | error error =>
      have failed : serve request state.contents = (.error error, state.contents) := by
        simp [serve, parsed]
      have same : send supply (token.authorize request) state = (.error error, state) := by
        rw [send, show (token.authorize request).fullUrl = request.fullUrl from rfl, parsed]
      have served : Outcome request state (serve request state.contents).1 state :=
        .served state rfl (by rw [failed]) (by simp [failed])
      rw [failed] at served
      rw [same]
      exact served
  | ok url =>
      have handled := isResource supply (token.authorize request) url rfl rfl parsed
      have sent : send supply (token.authorize request) state =
          (.ok (handleResource (Request.ofClient (token.authorize request) url) state).1.toResponse,
            (handleResource (Request.ofClient (token.authorize request) url) state).2) := by
        rw [send, show (token.authorize request).fullUrl = request.fullUrl from rfl, parsed,
          ← handled]
      rw [sent, handleResource]
      split
      · exact outcome_served parsed
      · exact .refused _ rfl

/-- A request for a resource with a token that the sandbox accepts is served. -/
theorem send_served (supply : TokenSupply) {request : Http.Request}
    (isResource : IsResource request.method request.url)
    (only : HasOnlyContentType request) {token : Token} (isText : IsTokenText token.value)
    {state : State} (accepted : state.accepts token.value = true) :
    (send supply (token.authorize request) state).1 = (serve request state.contents).1 ∧
      (send supply (token.authorize request) state).2.contents =
        (serve request state.contents).2 := by
  cases parsed : request.fullUrl with
  | error error =>
      rw [send, show (token.authorize request).fullUrl = request.fullUrl from rfl, parsed, serve,
        parsed]
      exact ⟨rfl, rfl⟩
  | ok url =>
      have handled := isResource supply (token.authorize request) url rfl rfl parsed
      have authorized :
          isAuthorized (Request.ofClient (token.authorize request) url) state = true := by
        simp [isAuthorized, presentedToken?_authorize only.hasNoCredentials isText, accepted]
      rw [send, show (token.authorize request).fullUrl = request.fullUrl from rfl, parsed]
      simp only [handled, handleResource, authorized, if_true, serve, parsed,
        handleAuthorized_ofClient, State.contents_withTokens, and_self]

end Serving

end CloudAdmin.Sandbox
