import CloudAdmin.Proofs.Sandbox.Direct
import CloudAdmin.Proofs.Sandbox.History

/-!
# Who a sandbox lets in

Which tokens are good can be told from the history of a sandbox alone: those that a login was
answered with, as long as no request took them back after that login. The step is that a request
makes a token good just if it is a login answered with it, and no token bad but those that it takes
back. Main statement: after any history, a sandbox lets in just the requests for a resource that
present such a token, in the first header that can hold one. It refuses all others as unauthorized
and is left as it was.
-/

namespace CloudAdmin.Sandbox

section Presenting

/-- Whether a session is the first one in a cookie. -/
def IsFirstSession (cookie token : String) : Prop :=
  ∃ before part after, Url.splitAll ';' cookie.toList = before ++ part :: after ∧
    Text.trimBlanks part = ("JSESSIONID=" ++ token).toList ∧
    ∀ other ∈ before, ∀ text, Text.trimBlanks other ≠ ("JSESSIONID=" ++ text).toList

/-- Whether a request presents a token: the bearer in its authorization, without one the first
session in its cookie, and without both what its header for tokens holds. -/
inductive Presents (request : Request) (token : String) : Prop where
  | bearer (header : request.header? "authorization" = some ("Bearer " ++ token))
  | session {cookie : String}
      (noBearer : ∀ text, request.header? "authorization" ≠ some ("Bearer " ++ text))
      (header : request.header? "cookie" = some cookie) (first : IsFirstSession cookie token)
  | authToken (noBearer : ∀ text, request.header? "authorization" ≠ some ("Bearer " ++ text))
      (noSession : ∀ cookie text, request.header? "cookie" = some cookie →
        ¬IsFirstSession cookie text)
      (header : request.header? "auth-token" = some token)

theorem textAfter?_eq_some_iff {start token : String} {text : List Char} :
    textAfter? start text = some token ↔ text = (start ++ token).toList := by
  constructor
  · intro found
    unfold textAfter? at found
    split at found
    · rename_i isPrefix
      rcases List.isPrefixOf_iff_prefix.mp isPrefix with ⟨rest, rfl⟩
      rcases Option.some.inj found with rfl
      simp [← String.length_toList]
    · cases found
  · intro same
    exact textAfter?_append start (by rw [same, String.toList_append])

theorem textAfter?_eq_none_iff {start : String} {text : List Char} :
    textAfter? start text = none ↔ ∀ token, text ≠ (start ++ token).toList := by
  rw [Option.eq_none_iff_forall_ne_some]
  exact forall_congr' fun token => not_congr textAfter?_eq_some_iff

theorem session_eq_some_iff {request : Request} {token : String} :
    (request.header? "cookie").bind sessionIn? = some token ↔
      ∃ cookie, request.header? "cookie" = some cookie ∧ IsFirstSession cookie token := by
  simp only [Option.bind_eq_some_iff, sessionIn?, List.findSome?_eq_some_iff, IsFirstSession,
    textAfter?_eq_some_iff, textAfter?_eq_none_iff]

theorem bearer_eq_some_iff {request : Request} {token : String} :
    ((request.header? "authorization").bind fun value => textAfter? "Bearer " value.toList) =
      some token ↔ request.header? "authorization" = some ("Bearer " ++ token) := by
  simp only [Option.bind_eq_some_iff, textAfter?_eq_some_iff, String.toList_inj, exists_eq_right]

theorem presentedToken?_eq_some_iff {request : Request} {token : String} :
    presentedToken? request = some token ↔ Presents request token := by
  have stages : presentedToken? request =
      ((request.header? "authorization").bind fun value => textAfter? "Bearer " value.toList).or
        (((request.header? "cookie").bind sessionIn?).or (request.header? "auth-token")) := by
    unfold presentedToken?
    split
    · simp [*]
    · split <;> simp [*]
  simp only [stages, Option.or_eq_some_iff, Option.eq_none_iff_forall_ne_some, ne_eq,
    bearer_eq_some_iff, session_eq_some_iff, not_exists, not_and]
  constructor
  · rintro (header | ⟨noBearer, ⟨cookie, header, first⟩ | ⟨noSession, header⟩⟩)
    · exact .bearer header
    · exact .session noBearer header first
    · exact .authToken noBearer (fun cookie text => noSession text cookie) header
  · rintro (header | ⟨noBearer, header, first⟩ | ⟨noBearer, noSession, header⟩)
    · exact .inl header
    · exact .inr ⟨noBearer, .inl ⟨_, header, first⟩⟩
    · exact .inr ⟨noBearer, .inr ⟨fun text cookie => noSession cookie text, header⟩⟩

end Presenting

section Judging

namespace Event

/-- Whether an event is a login that was answered with a token. -/
def Issues (token : String) (event : Event) : Prop :=
  ∃ flow, event.request.IsLogin flow ∧ event.reply = welcome token flow

/-- Whether a token is not good any more after an event, whatever it was before. -/
def TakesBack (token : String) (event : Event) : Prop :=
  event.request.IsRevocation ∨ event.request.IsLogout ∧ Presents event.request token

end Event

/-- Whether a history makes a token good: a login was answered with it, and nothing took it back
after that. -/
def IsGood (token : String) (history : List Event) : Prop :=
  ∃ earlier login later, history = earlier ++ login :: later ∧ login.Issues token ∧
    ∀ event ∈ later, ¬event.TakesBack token

variable {supply : TokenSupply} {token : String} {request : Request} {state : State}

theorem isGood_concat {history : List Event} {last : Event} :
    IsGood token (history ++ [last]) ↔
      last.Issues token ∨ IsGood token history ∧ ¬last.TakesBack token := by
  constructor
  · rintro ⟨earlier, login, later, whole, issues, kept⟩
    -- Either the last event is the login itself, or it comes after it.
    rcases List.eq_nil_or_concat later with rfl | ⟨before, event, rfl⟩
    · rcases List.append_inj' whole rfl with ⟨-, same⟩
      rcases List.cons.inj same with ⟨rfl, -⟩
      exact .inl issues
    · rw [List.concat_eq_append] at whole kept
      have cut : history ++ [last] = (earlier ++ login :: before) ++ [event] := by simp [whole]
      rcases List.append_inj' cut rfl with ⟨rfl, same⟩
      rcases List.cons.inj same with ⟨rfl, -⟩
      exact .inr ⟨⟨earlier, login, before, rfl, issues,
        fun other member => kept other (List.mem_append_left _ member)⟩, kept last (by simp)⟩
  · rintro (issues | ⟨⟨earlier, login, later, rfl, issues, kept⟩, notBack⟩)
    · exact ⟨history, last, [], rfl, issues, nofun⟩
    · refine ⟨earlier, login, later ++ [last], by simp, issues, fun event member => ?_⟩
      rcases List.mem_append.mp member with before | same
      · exact kept event before
      · rcases List.mem_singleton.mp same with rfl
        exact notBack

theorem loginPath_injective : Function.Injective Authenticator.loginPath := by
  intro first second same
  cases first <;> cases second <;> first | rfl | exact absurd same (by decide)

/-- An answer to a login tells which token was issued. -/
theorem welcome_injective (flow : LoginFlow) : Function.Injective (welcome · flow) := by
  intro first second same
  have read (shape : List Json.FieldShape) := congrArg (Json.readShape shape ·.body) same
  cases flow with
  | oneApi => simpa [readShape_oneApi] using read (Authenticator.tokenShape "access_token")
  | zia =>
      have cookie := congrArg Reply.cookie same
      simpa [welcome, sessionCookie, String.join, String.append_assoc, ← String.toList_inj]
        using cookie
  | zpa => simpa [readShape_zpa] using read (Authenticator.tokenShape "access_token")
  | zcc => simpa [readShape_zcc] using read [⟨"jwtToken", .text⟩]
  | zdx => simpa [readShape_zdx] using read (Authenticator.tokenShape "token")

theorem Request.IsLogin.not_takesBack {flow : LoginFlow} (isLogin : request.IsLogin flow)
    (reply : Reply) : ¬(Event.mk request reply).TakesBack token := by
  rintro (⟨path, -⟩ | ⟨⟨-, method⟩, -⟩)
  · have same : Authenticator.loginPath flow = "/mock/revoke-tokens" := isLogin.1.symm.trans path
    cases flow <;> exact absurd same (by decide)
  · exact absurd (isLogin.2.symm.trans method) (by decide)

/-- A login makes good the token that it is answered with, and no other. -/
theorem accepts_login {flow : LoginFlow} (isLogin : request.IsLogin flow) :
    (handle supply request state).2.accepts token = true ↔
      (Event.mk request (handle supply request state).1).Issues token ∨
        state.accepts token = true := by
  rw [handle_login supply flow isLogin.1 isLogin.2]
  -- The paths of logins differ, so the flow is known from the request.
  have issues (reply : Reply) :
      (Event.mk request reply).Issues token ↔ reply = welcome token flow := by
    refine ⟨?_, fun same => ⟨flow, isLogin, same⟩⟩
    rintro ⟨other, isOther, same⟩
    rcases loginPath_injective (isLogin.1.symm.trans isOther.1) with rfl
    exact same
  cases isSettled_login supply flow request with
  | refused reply failure always =>
      have different : reply ≠ welcome token flow := by
        rintro rfl
        have success := status_welcome token flow
        omega
      simp [always, issues, different]
  | accepted always =>
      simp [always, issues, (welcome_injective flow).eq_iff, State.issue, State.accepts,
        eq_comm (a := token)]

theorem handle_logout (isLogout : request.IsLogout) :
    handle supply request state = ziaLogout request state := by
  simp [handle, route, endpoints, isLogout.1, isLogout.2, Assoc.find?, dispatch]

theorem handle_revocation (isRevocation : request.IsRevocation) :
    handle supply request state = revokeTokens request state := by
  simp [handle, route, endpoints, isRevocation.1, isRevocation.2, Assoc.find?, dispatch]

theorem accepts_revoke {shown : String} :
    (state.revoke shown).accepts token = true ↔ state.accepts token = true ∧ token ≠ shown := by
  simp [State.revoke, State.accepts]

/-- A logout takes back the token that it presents, and no other. -/
theorem accepts_logout (isLogout : request.IsLogout) :
    (handle supply request state).2.accepts token = true ↔
      state.accepts token = true ∧ ¬Presents request token := by
  rw [handle_logout isLogout, ziaLogout, ← presentedToken?_eq_some_iff]
  cases presentedToken? request with
  | none => simp
  | some shown =>
      simp only [Option.some.injEq, eq_comm (a := shown)]
      split
      · exact accepts_revoke
      · rename_i notAccepted
        refine ⟨fun accepted => ⟨accepted, ?_⟩, And.left⟩
        rintro rfl
        exact notAccepted accepted

theorem tokens_handleResource (request : Request) (state : State) :
    (handleResource request state).2.tokens = state.tokens := by
  rw [handleResource]
  split
  · exact congrArg (State.tokens ∘ Prod.snd)
      (ignoresTokens_handleAuthorized request state.tokens state.logins state)
  · rfl

/-- Only logins, logouts and revocations have to do with tokens. -/
theorem tokens_of_other (supply : TokenSupply) (state : State)
    (noLogin : ∀ flow, ¬request.IsLogin flow) (noLogout : ¬request.IsLogout)
    (noRevocation : ¬request.IsRevocation) :
    (handle supply request state).2.tokens = state.tokens := by
  rcases exists_goesTo supply request with ⟨handler, goes, routed⟩
  rw [handle_snd, routed]
  cases goes with
  | login flow isLogin => exact absurd isLogin (noLogin flow)
  | logout isLogout => exact absurd isLogout noLogout
  | revocation isRevocation => exact absurd isRevocation noRevocation
  | count => rfl
  | refusal allowed => rfl
  | resource isForResource => exact tokens_handleResource request state

/-- What a request does to a token shows in the event. -/
theorem accepts_handle (supply : TokenSupply) (token : String) (request : Request) (state : State) :
    (handle supply request state).2.accepts token = true ↔
      (Event.mk request (handle supply request state).1).Issues token ∨
        state.accepts token = true ∧
          ¬(Event.mk request (handle supply request state).1).TakesBack token := by
  by_cases login : ∃ flow, request.IsLogin flow
  · rcases login with ⟨flow, isLogin⟩
    simp [accepts_login isLogin, isLogin.not_takesBack]
  have noIssue (reply : Reply) : ¬(Event.mk request reply).Issues token :=
    fun ⟨flow, isLogin, _⟩ => login ⟨flow, isLogin⟩
  by_cases isLogout : request.IsLogout
  · have noRevocation : ¬request.IsRevocation := fun isRevocation =>
      absurd (isLogout.2.symm.trans isRevocation.2) (by decide)
    simp [accepts_logout isLogout, noIssue, Event.TakesBack, isLogout, noRevocation]
  by_cases isRevocation : request.IsRevocation
  · simp [handle_revocation isRevocation, revokeTokens, State.revokeAll, State.accepts, noIssue,
      Event.TakesBack, isRevocation]
  · have tokens := tokens_of_other supply state (fun flow isLogin => login ⟨flow, isLogin⟩)
      isLogout isRevocation
    simp [State.accepts, tokens, noIssue, Event.TakesBack, isLogout, isRevocation]

/-- A sandbox accepts just the tokens that its history makes good. -/
theorem accepts_run_iff (supply : TokenSupply) (requests : List Request) (token : String) :
    (run supply requests .empty).2.accepts token = true ↔
      IsGood token (run supply requests .empty).1 := by
  refine run_induction supply (fun history state =>
    state.accepts token = true ↔ IsGood token history) ?_ ?_ requests
  · simp [State.empty, State.accepts, IsGood]
  · intro history state request kept
    rw [accepts_handle, isGood_concat, kept]

end Judging

section Admitting

variable {request : Request}

theorem isAuthorized_iff (request : Request) (state : State) :
    isAuthorized request state = true ↔
      ∃ token, Presents request token ∧ state.accepts token = true := by
  simp only [isAuthorized, Option.any_eq_true, presentedToken?_eq_some_iff]

theorem status_handle_iff (isForResource : request.IsForResource) (supply : TokenSupply)
    (state : State) :
    (handle supply request state).1.status = 401 ↔ isAuthorized request state = false := by
  rw [status_handle, route_of_isForResource isForResource, handleResource]
  split
  · rename_i authorized
    simp [authorized, status_handleAuthorized]
  · rename_i refused
    simp [refused, Reply.json]

theorem handle_of_refused (isForResource : request.IsForResource) (supply : TokenSupply)
    {state : State} (refused : isAuthorized request state = false) :
    (handle supply request state).2 = state := by
  rw [handle_snd, route_of_isForResource isForResource, handleResource, refused]
  rfl

/-- After any history, a sandbox lets in a request for a resource just if it presents a token that
the history makes good. What is not let in is refused as unauthorized and changes nothing. -/
theorem lets_in_iff_presents_good (supply : TokenSupply) (requests : List Request)
    {request : Request} (isForResource : request.IsForResource) :
    let past := run supply requests .empty
    let (reply, after) := handle supply request past.2
    (isAuthorized request past.2 = true ↔ ∃ token, Presents request token ∧ IsGood token past.1) ∧
      (reply.status = 401 ↔ isAuthorized request past.2 = false) ∧
      (reply.status = 401 → after = past.2) := by
  intro past
  have status := status_handle_iff isForResource supply past.2
  refine ⟨?_, status, fun refused => handle_of_refused isForResource supply (status.mp refused)⟩
  simp only [isAuthorized_iff, past, accepts_run_iff]

/-- A request for all labels with some headers. -/
def labelsWith (headers : Http.Headers) : Request :=
  ⟨"GET", "/zia/api/v1/labels", [], headers, ""⟩

/-- A token from before a revocation is refused, even beside a session that would be let in. -/
theorem stale_bearer_hides_session :
    let past := run countingSupply
      [gatewayEntry, ⟨"POST", "/mock/revoke-tokens", [], [], ""⟩, gatewayEntry] .empty
    let stale := ("authorization", "Bearer " ++ countingSupply 0)
    let session := ("cookie", "lang=en; JSESSIONID=" ++ countingSupply 1)
    (∃ token, Presents (labelsWith [session]) token ∧ IsGood token past.1) ∧
      (handle countingSupply (labelsWith [session, stale]) past.2).1.status = 401 ∧
      (handle countingSupply (labelsWith [session, stale]) past.2).2 = past.2 := by
  intro past stale session
  have isForResource (headers : Http.Headers) : (labelsWith headers).IsForResource :=
    .inl (show "/zia/api/v1/labels" ∉ ownPaths by decide)
  have letIn : isAuthorized (labelsWith [session]) past.2 = true := by decide +kernel
  have refused : isAuthorized (labelsWith [session, stale]) past.2 = false := by decide +kernel
  rcases lets_in_iff_presents_good countingSupply _ (isForResource [session]) with ⟨good, -⟩
  rcases lets_in_iff_presents_good countingSupply _ (isForResource [session, stale])
    with ⟨-, status, unchanged⟩
  exact ⟨good.mp letIn, status.mpr refused, unchanged (status.mpr refused)⟩

end Admitting

end CloudAdmin.Sandbox
