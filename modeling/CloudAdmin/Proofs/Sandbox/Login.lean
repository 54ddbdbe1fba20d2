import CloudAdmin.Login.Authenticator
import CloudAdmin.Proofs.Json.RoundTrip
import CloudAdmin.Proofs.Text.Splitting
import CloudAdmin.Sandbox.Connection

/-!
# Logging in to a sandbox

Whether a sandbox accepts a login depends on the login alone and on nothing that the sandbox keeps.
A login that it accepts once is therefore accepted in every state: it issues the next token of the
supply and changes nothing but the tokens, and the client reads just that token from the answer. A
request that carries the token presents it, whatever the flow.
-/

namespace CloudAdmin.Sandbox

/-- Whether a text may be a token: it is not empty and consists of visible characters of ASCII
other than the one that separates the parts of a cookie. -/
def IsTokenText (text : String) : Prop :=
  text ≠ "" ∧ ∀ c ∈ text.toList, 0x21 ≤ c.toNat ∧ c.toNat ≤ 0x7E ∧ c ≠ ';'

/-- What a flow's token is attached as. -/
def tokenKind : LoginFlow → TokenKind
  | .oneApi | .zpa | .zdx => .bearer
  | .zia => .sessionCookie
  | .zcc => .authTokenHeader

/-- How long a client takes the token of a flow to live, in milliseconds. -/
def lifetime : LoginFlow → UInt64
  | .zia => Authenticator.sessionLifetime
  | .oneApi | .zpa | .zcc | .zdx => Authenticator.defaultLifetime

/-- What answers the logins of a flow. -/
def loginHandler (supply : TokenSupply) : LoginFlow → Handler
  | .oneApi => gatewayLogin supply
  | .zia => ziaLogin supply
  | .zpa => zpaLogin supply
  | .zcc => zccLogin supply
  | .zdx => zdxLogin supply

/-- The answer to a good login of a flow. -/
def welcome (token : String) : LoginFlow → Reply
  | .oneApi => .fields [("access_token", .string token), ("token_type", .string "Bearer"),
      ("expires_in", .ofWord tokenLifetime)]
  | .zia =>
      { Reply.fields [("authType", .string "ADMIN_LOGIN"), ("obfuscateApiKey", .bool true),
          ("passwordExpiryTime", .ofWord 0)] with
        cookie := some (sessionCookie token) }
  | .zpa => .fields [("token_type", .string "Bearer"), ("access_token", .string token),
      ("expires_in", .string (Text.decimal tokenLifetime.toNat))]
  | .zcc => .fields [("jwtToken", .string token)]
  | .zdx => .fields [("token", .string token), ("token_type", .string "Bearer"),
      ("expires_in", .ofWord tokenLifetime)]

theorem status_welcome (token : String) (flow : LoginFlow) : (welcome token flow).status = 200 := by
  cases flow <;> rfl

section Handling

variable {supply : TokenSupply}

/-- Whether something that handles a login always refuses it without a change or always issues a
token. -/
inductive IsSettled (supply : TokenSupply) (welcome : String → Reply)
    (handle : State → Reply × State) : Prop where
  | refused (reply : Reply) (failure : 300 ≤ reply.status)
      (always : ∀ state, handle state = (reply, state))
  | accepted (always : ∀ state,
      handle state = (welcome (supply state.logins), (state.issue supply).2))

theorem isSettled_answerLogin (isGood : Bool) (welcome : String → Reply) {rejection : Reply}
    (failure : 300 ≤ rejection.status) :
    IsSettled supply welcome (answerLogin supply isGood welcome rejection) := by
  cases isGood with
  | true => exact .accepted fun state => rfl
  | false => exact .refused rejection failure fun state => rfl

theorem isSettled_withFields {Fields : Type} {fields : Except Reply Fields}
    {handle : Fields → State → Reply × State} {welcome : String → Reply}
    (failure : ∀ reply, fields = .error reply → 300 ≤ reply.status)
    (settled : ∀ found, IsSettled supply welcome (handle found)) :
    IsSettled supply welcome (withFields fields handle) := by
  cases fields with
  | ok found => exact settled found
  | error reply => exact .refused reply (failure reply rfl) fun state => rfl

theorem status_of_formFields_error {request : Request} {reply : Reply}
    (failed : formFields request = .error reply) : 300 ≤ reply.status := by
  unfold formFields at failed
  split at failed
  · split at failed
    · cases failed
    · cases failed
      decide
  · cases failed
    decide

theorem status_of_jsonFields_error {shape : List Json.FieldShape} {request : Request}
    {reply : Reply} (failed : jsonFields shape request = .error reply) : 300 ≤ reply.status := by
  unfold jsonFields at failed
  split at failed
  · split at failed
    · split at failed
      · cases failed
      · cases failed
        decide
      · cases failed
        decide
    · cases failed
      decide
  · cases failed
    decide

theorem isSettled_login (supply : TokenSupply) (flow : LoginFlow) (request : Request) :
    IsSettled supply (welcome · flow) (loginHandler supply flow request) := by
  cases flow with
  | oneApi =>
      exact isSettled_withFields (fun _ => status_of_formFields_error)
        fun _ => isSettled_answerLogin _ _ (by decide)
  | zia =>
      exact isSettled_withFields (fun _ => status_of_jsonFields_error)
        fun _ => isSettled_answerLogin _ _ (by decide)
  | zpa =>
      exact isSettled_withFields (fun _ => status_of_formFields_error)
        fun _ => isSettled_answerLogin _ _ (by decide)
  | zcc =>
      exact isSettled_withFields (fun _ => status_of_jsonFields_error)
        fun _ => isSettled_answerLogin _ _ (by decide)
  | zdx =>
      exact isSettled_withFields (fun _ => status_of_jsonFields_error)
        fun _ => isSettled_answerLogin _ _ (by decide)

/-- A login that is posted to the path of its flow reaches the handler of the flow. -/
theorem handle_login (supply : TokenSupply) (flow : LoginFlow) {request : Request}
    (path : request.path = Authenticator.loginPath flow) (method : request.method = "POST") :
    handle supply request = loginHandler supply flow request := by
  funext state
  have post : ¬request.method = "HEAD" := by simp [method]
  cases flow <;>
    simp [handle, route, endpoints, path, Authenticator.loginPath, Assoc.find?, dispatch, method,
      loginHandler]

end Handling

section Reading

variable {token : String}

/-- What is read by its shape from some members that were written in any order: they stand in the
text in ascending order. -/
theorem readShape_ofFields {shape : List Json.FieldShape}
    {members ordered : List (String × Json.Value)} {found : Json.Found}
    (readBack : ∀ member ∈ members, member.2.ReadsBack 0)
    (sorted : Assoc.ofList members = ordered)
    (read : Json.readObject shape (Json.Value.object ordered).tokens.tail = .ok (found, [])) :
    Json.readShape shape (Json.Value.ofFields members).text = .ok found := by
  have scanned := (Json.Value.ReadsBack.ofFields readBack).scan_text
  rw [Json.Value.ofFields, sorted] at scanned ⊢
  have opened : (Json.Value.object ordered).tokens =
      .openBrace :: (Json.Value.object ordered).tokens.tail := rfl
  rw [Json.readShape, scanned, opened]
  simp only [read]
  rfl

/-- A session takes up just one part of a cookie, and nothing of it is trimmed. -/
theorem IsTokenText.inCookie (isText : IsTokenText token) :
    ∀ c ∈ "JSESSIONID=".toList ++ token.toList, c ≠ ';' ∧ Text.isBlank c = false := by
  have name : "JSESSIONID=".toList.all (fun c => c != ';' && !Text.isBlank c) = true := by decide
  intro c member
  rcases List.mem_append.mp member with inName | inValue
  · simpa using List.all_eq_true.mp name c inName
  · rcases isText.2 c inValue with ⟨atLeast, atMost, different⟩
    refine ⟨different, ?_⟩
    simp [Text.isBlank]
    omega

/-- The client finds the token in a cookie that the sandbox sets. -/
theorem sessionInCookie?_sessionCookie (isText : IsTokenText token) :
    Authenticator.sessionInCookie? (sessionCookie token) = some token := by
  have part := isText.inCookie
  have cookie : (sessionCookie token).toList =
      ("JSESSIONID=".toList ++ token.toList) ++ ';' :: " Path=/; Secure; HttpOnly".toList := by
    simp only [sessionCookie, String.join, List.foldl_cons, List.foldl_nil, String.toList_append,
      String.toList_empty, List.nil_append]
    rfl
  have found :
      Authenticator.sessionInPart? ("JSESSIONID=".toList ++ token.toList) = some token := by
    have split : Url.splitFirst '=' ("JSESSIONID=".toList ++ token.toList) =
        ("JSESSIONID".toList, some token.toList) := rfl
    rw [Authenticator.sessionInPart?,
      Text.trimBlanks_of_forall_not_isBlank fun c member => (part c member).2, split]
    simp [isText.1]
  rw [Authenticator.sessionInCookie?, cookie, Url.splitAll_append fun c member => (part c member).1]
  simp only [List.findSome?_cons, found]

theorem readBearer_of_found {name body : String} {found : Json.Found}
    (read : Json.readShape (Authenticator.tokenShape name) body = .ok found)
    (text : found.text? name = some token)
    (stated : Authenticator.lifetime (found.optional? "expires_in") = Authenticator.defaultLifetime)
    (now : UInt64) :
    Authenticator.readBearer name now body =
      .ok ⟨token, .bearer, Saturating.add now Authenticator.defaultLifetime⟩ := by
  simp only [Authenticator.readBearer, Authenticator.readToken, Authenticator.readAnswer, read,
    bind, Except.bind, text, stated]
  rfl

theorem readShape_oneApi :
    Json.readShape (Authenticator.tokenShape "access_token") (welcome token .oneApi).body =
      .ok [("expires_in", .ofWord tokenLifetime), ("access_token", .string token)] :=
  readShape_ofFields (by simpa using ⟨.string _, .string _, .ofWord _⟩)
    (by simp only [Assoc.ofList, List.foldl_cons, List.foldl_nil, Assoc.insert, String.reduceEq,
      String.reduceLT, if_true, if_false]; rfl) (by rfl)

theorem readShape_zpa :
    Json.readShape (Authenticator.tokenShape "access_token") (welcome token .zpa).body =
      .ok [("expires_in", .string (Text.decimal tokenLifetime.toNat)),
        ("access_token", .string token)] :=
  readShape_ofFields (by simpa using ⟨.string _, .string _, .string _⟩)
    (by simp only [Assoc.ofList, List.foldl_cons, List.foldl_nil, Assoc.insert, String.reduceEq,
      String.reduceLT, if_true, if_false]; rfl) (by rfl)

theorem readShape_zdx :
    Json.readShape (Authenticator.tokenShape "token") (welcome token .zdx).body =
      .ok [("token", .string token), ("expires_in", .ofWord tokenLifetime)] :=
  readShape_ofFields (by simpa using ⟨.string _, .string _, .ofWord _⟩)
    (by simp only [Assoc.ofList, List.foldl_cons, List.foldl_nil, Assoc.insert, String.reduceEq,
      String.reduceLT, if_true, if_false]; rfl) (by rfl)

theorem readShape_zcc :
    Json.readShape [⟨"jwtToken", .text⟩] (welcome token .zcc).body =
      .ok [("jwtToken", .string token)] :=
  readShape_ofFields (by simpa using .string _) (by rfl) (by rfl)

/-- The client reads the token that the sandbox issued from its answer to a login. -/
theorem readLogin_welcome (isText : IsTokenText token) (authenticator : Authenticator)
    (now : UInt64) :
    authenticator.readLogin (welcome token authenticator.credentials.flow).toResponse now =
      .ok ⟨token, tokenKind authenticator.credentials.flow,
        Saturating.add now (lifetime authenticator.credentials.flow)⟩ := by
  rcases authenticator with ⟨credentials, root⟩
  cases credentials with
  | oneApi clientId clientSecret =>
      exact readBearer_of_found readShape_oneApi rfl rfl now
  | zia username password apiKey =>
      have set : (welcome token .zia).toResponse.headerValues "set-cookie" =
          [sessionCookie token] := by
        have type : Text.sameName "content-type" "set-cookie" = false := by decide
        have length : Text.sameName "content-length" "set-cookie" = false := by decide
        have cookie : Text.sameName "set-cookie" "set-cookie" = true := by decide
        simp [welcome, Reply.toResponse, Reply.fields, Reply.json, Http.Response.headerValues,
          Http.Headers.values, type, length, cookie]
      have found : Authenticator.session? (welcome token .zia).toResponse = some token := by
        simp [Authenticator.session?, set, sessionInCookie?_sessionCookie isText]
      simp only [Authenticator.readLogin, Credentials.flow, found]
      rfl
  | zpa clientId clientSecret => exact readBearer_of_found readShape_zpa rfl rfl now
  | zcc apiKey secretKey =>
      change Authenticator.readToken "jwtToken" .authTokenHeader [⟨"jwtToken", .text⟩] _ now
        (welcome token .zcc).body = _
      simp only [Authenticator.readToken, Authenticator.readAnswer, readShape_zcc]
      rfl
  | zdx keyId keySecret => exact readBearer_of_found readShape_zdx rfl rfl now

end Reading

section Presenting

/-- The headers that carry tokens. -/
def credentialHeaders : List String :=
  ["authorization", "cookie", "auth-token"]

/-- Whether a request has no header that carries a token. -/
def HasNoCredentials (request : Http.Request) : Prop :=
  ∀ header ∈ request.headers, ∀ name ∈ credentialHeaders, Text.sameName header.1 name = false

/-- Whether a request says nothing but what its body is. -/
def HasOnlyContentType (request : Http.Request) : Prop :=
  ∀ header ∈ request.headers, header.1 = "content-type"

theorem HasOnlyContentType.hasNoCredentials {request : Http.Request}
    (only : HasOnlyContentType request) : HasNoCredentials request := by
  have others : credentialHeaders.all (fun name => !Text.sameName "content-type" name) = true := by
    decide
  intro header member name credential
  rw [only header member]
  simpa using List.all_eq_true.mp others name credential

@[simp]
theorem hasOnlyContentType_bare (method : Http.Method) (url : String) :
    HasOnlyContentType (.bare method url) := by
  simp [HasOnlyContentType, Http.Request.bare]

@[simp]
theorem hasOnlyContentType_withQuery {query : Url.Pairs} {request : Http.Request} :
    HasOnlyContentType (request.withQuery query) ↔ HasOnlyContentType request :=
  Iff.rfl

@[simp]
theorem hasOnlyContentType_withJson {value : Json.Value} {request : Http.Request} :
    HasOnlyContentType (request.withJson value) ↔ HasOnlyContentType request := by
  simp [HasOnlyContentType, Http.Request.withJson, Http.Request.withHeader, or_imp, forall_and]

theorem find?_append_of_forall_other {headers : Http.Headers} {name : String}
    (others : ∀ header ∈ headers, Text.sameName header.1 name = false) (rest : Http.Headers) :
    Http.Headers.find? name (headers ++ rest) = Http.Headers.find? name rest := by
  have none : List.find? (fun header => Text.sameName header.1 name) headers = Option.none := by
    simp only [List.find?_eq_none]
    intro header member
    simp [others header member]
  simp [Http.Headers.find?, List.find?_append, none]

theorem find?_singleton (name : String) (header : String × String) :
    Http.Headers.find? name [header] =
      if Text.sameName header.1 name then some header.2 else none := by
  simp only [Http.Headers.find?, List.find?_cons]
  cases Text.sameName header.1 name <;> rfl

/-- The only header that carries a token in a request with a token is that of the token. -/
theorem header?_authorize {request : Http.Request} (none : HasNoCredentials request)
    (token : Token) (visible : token.header.2.toList.all Request.isVisible = true) (url : Url)
    {name : String} (credential : name ∈ credentialHeaders) :
    (Request.ofClient (token.authorize request) url).header? name =
      if Text.sameName token.header.1 name then some token.header.2 else Option.none := by
  have others : ∀ header ∈ Http.Headers.without token.header.1 request.headers,
      Text.sameName header.1 name = false :=
    fun header member => none header (List.mem_filter.mp member).1 name credential
  simp only [Request.header?, Request.ofClient, Request.ofTarget, Token.authorize]
  rw [find?_append_of_forall_other others, find?_singleton]
  split
  · simp [Option.filter, visible]
  · rfl

theorem textAfter?_append (start : String) {text : String} {whole : List Char}
    (split : whole = start.toList ++ text.toList) : textAfter? start whole = some text := by
  have length : start.length = start.toList.length := String.length_toList.symm
  simp [textAfter?, split, length]

theorem IsTokenText.isVisible {token : String} (isText : IsTokenText token) :
    token.toList.all Request.isVisible = true := by
  simp only [List.all_eq_true]
  intro c member
  rcases isText.2 c member with ⟨atLeast, atMost, -⟩
  simp [Request.isVisible]
  omega

theorem sessionIn?_append {token : String} (isText : IsTokenText token) :
    sessionIn? ("JSESSIONID=" ++ token) = some token := by
  have part := isText.inCookie
  rw [sessionIn?, String.toList_append, Url.splitAll_of_forall_ne fun c member => (part c member).1]
  simp only [List.findSome?_cons,
    Text.trimBlanks_of_forall_not_isBlank fun c member => (part c member).2,
    textAfter?_append "JSESSIONID=" rfl]

theorem all_isVisible_append {start text : String}
    (fixed : start.toList.all Request.isVisible = true)
    (visible : text.toList.all Request.isVisible = true) :
    (start ++ text).toList.all Request.isVisible = true := by
  rw [String.toList_append, List.all_append, fixed, visible]
  rfl

/-- The sandbox sees the token that a client attaches to a request, in whatever header. -/
theorem presentedToken?_authorize {request : Http.Request} (none : HasNoCredentials request)
    {token : Token} (isText : IsTokenText token.value) (url : Url) :
    presentedToken? (Request.ofClient (token.authorize request) url) = some token.value := by
  have visible := isText.isVisible
  have authorization : "authorization" ∈ credentialHeaders := .head _
  have cookie : "cookie" ∈ credentialHeaders := .tail _ (.head _)
  have authToken : "auth-token" ∈ credentialHeaders := .tail _ (.tail _ (.head _))
  rcases token with ⟨value, kind, expiresAt⟩
  cases kind with
  | bearer =>
      have header := @header?_authorize _ none ⟨value, .bearer, expiresAt⟩
        (all_isVisible_append (by decide) visible) url
      rw [presentedToken?, header authorization]
      simp only [Token.header, show Text.sameName "authorization" "authorization" = true by decide,
        if_true, Option.bind_some, textAfter?_append "Bearer " String.toList_append]
  | sessionCookie =>
      have header := @header?_authorize _ none ⟨value, .sessionCookie, expiresAt⟩
        (all_isVisible_append (by decide) visible) url
      rw [presentedToken?, header authorization, header cookie]
      simp only [Token.header, show Text.sameName "cookie" "authorization" = false by decide,
        show Text.sameName "cookie" "cookie" = true by decide, if_true, Option.bind_some,
        Option.bind_none, Bool.false_eq_true, if_false, sessionIn?_append isText]
  | authTokenHeader =>
      have header := @header?_authorize _ none ⟨value, .authTokenHeader, expiresAt⟩ visible url
      rw [presentedToken?, header authorization, header cookie, header authToken]
      simp only [Token.header, show Text.sameName "auth-token" "authorization" = false by decide,
        show Text.sameName "auth-token" "cookie" = false by decide,
        show Text.sameName "auth-token" "auth-token" = true by decide, if_true, Option.bind_none,
        Bool.false_eq_true, if_false]

end Presenting

end CloudAdmin.Sandbox
