import CloudAdmin.Proofs.Sandbox.Direct
import CloudAdmin.Proofs.Session.KeyObfuscation
import CloudAdmin.Proofs.Session.LoginRequest
import CloudAdmin.Proofs.Text.Ascii
import CloudAdmin.Proofs.Url.Form
import CloudAdmin.Proofs.Url.Segment

/-!
# Credentials that a sandbox takes

Clients write logins as forms and as JSON, and a sandbox reads them by rules of its own. First it is
shown that a sandbox reads from a login what the client wrote into it, whatever characters the
credentials consist of, then flow by flow what the sandbox makes of it. Main statement: a sandbox
welcomes a login just if the credentials are its customer's, and the client then has the token that
the sandbox issued and accepts; any other login is an error for the client and nothing to the
sandbox.
-/

namespace CloudAdmin.Sandbox

/-- Whether credentials are those of a sandbox's customer at a time. A sandbox cannot tell API keys
of ZIA apart as long as the picked characters take a byte each, nor secrets of ZDX, but it wants the
time of ZDX, which is in seconds, to have begun. -/
def AreCustomers (now : UInt64) : Credentials → Prop
  | .oneApi id secret | .zpa id secret => id = clientId ∧ secret = clientSecret
  | .zia name secret key => name = username ∧ secret = password ∧
      ∀ picked, obfuscateKey key now = .ok picked → ∀ c ∈ picked.toList, c.toNat < 128
  | .zcc key secret => key = clientId ∧ secret = clientSecret
  | .zdx id _ => id = clientId ∧ 1000 ≤ now.toNat

section Reading

variable (address : String) (url : Url)

theorem header?_contentType (type : String) (visible : type.toList.all Request.isVisible = true)
    (body : Option String) :
    (Request.ofClient
      { (Http.Request.bare .post address).withHeader "content-type" type with body }
      url).header? "content-type" = some type := by
  simp [Request.header?, Request.ofClient, Request.ofTarget, Http.Request.withHeader,
    Http.Request.bare, Http.Headers.find?, Option.filter, visible]

/-- A sandbox reads from a form what a client wrote into it. -/
theorem formFields_withForm (fields : Url.Pairs) :
    formFields (Request.ofClient ((Http.Request.bare .post address).withForm fields) url) =
      .ok fields := by
  have type := header?_contentType address url Http.formType (by decide)
    (some (Url.renderForm fields))
  have same : Http.formType.toList.isPrefixOf Http.formType.toList = true := by decide
  rw [formFields, Http.Request.withForm, type]
  simp only [same, if_true]
  exact congrArg _ (Url.parseForm_renderForm fields)

/-- A sandbox reads a JSON body by its shape, as the client meant it to be read. -/
theorem jsonFields_withJson {shape : List Json.FieldShape} {value : Json.Value} {found : Json.Found}
    (read : Json.readShape shape value.text = .ok found) :
    jsonFields shape (Request.ofClient ((Http.Request.bare .post address).withJson value) url) =
      .ok found := by
  have type := header?_contentType address url Http.jsonType (by decide)
    (some value.text)
  have parsed : Http.MediaType.parse? Http.jsonType.toList =
      some ⟨"application".toList, "json".toList, none⟩ := by decide
  have isJson : Http.MediaType.isJson ⟨"application".toList, "json".toList, none⟩ = true := by
    decide
  rw [jsonFields, Http.Request.withJson, type, Option.bind_some, parsed]
  simp only [isJson, if_true]
  rw [show (Request.ofClient { (Http.Request.bare .post address).withHeader "content-type"
    Http.jsonType with body := some value.text } url).body = value.text from rfl, read]

end Reading

section Shapes

theorem readShape_ziaShape (key name secret timestamp : String) :
    Json.readShape ziaShape (Json.Value.ofFields [("apiKey", .string key),
        ("username", .string name), ("password", .string secret),
        ("timestamp", .string timestamp)]).text =
      .ok [("username", .string name), ("timestamp", .string timestamp),
        ("password", .string secret), ("apiKey", .string key)] :=
  readShape_ofFields (by simpa using ⟨.string _, .string _, .string _, .string _⟩)
    (by simp only [Assoc.ofList, List.foldl_cons, List.foldl_nil, Assoc.insert, String.reduceEq,
      String.reduceLT, if_true, if_false]; rfl) (by rfl)

theorem readShape_zccShape (key secret : String) :
    Json.readShape zccShape (Json.Value.ofFields [("apiKey", .string key),
        ("secretKey", .string secret)]).text =
      .ok [("secretKey", .string secret), ("apiKey", .string key)] :=
  readShape_ofFields (by simpa using ⟨.string _, .string _⟩)
    (by simp only [Assoc.ofList, List.foldl_cons, List.foldl_nil, Assoc.insert, String.reduceEq,
      String.reduceLT, if_false]; rfl) (by rfl)

theorem readShape_zdxShape (id secret : String) (seconds : UInt64) :
    Json.readShape zdxShape (Json.Value.ofFields [("key_id", .string id),
        ("key_secret", .string secret), ("timestamp", .ofWord seconds)]).text =
      .ok [("timestamp", .ofWord seconds), ("key_secret", .string secret),
        ("key_id", .string id)] :=
  readShape_ofFields (by simpa using ⟨.string _, .string _, .ofWord _⟩)
    (by simp only [Assoc.ofList, List.foldl_cons, List.foldl_nil, Assoc.insert, String.reduceEq,
      String.reduceLT, if_false]; rfl) (by rfl)

end Shapes

section Judging

/-- A key that was picked has the length of one just if it belongs to ASCII. -/
theorem utf8ByteSize_obfuscateKey {key picked : String} {now : UInt64}
    (obfuscated : obfuscateKey key now = .ok picked) :
    picked.utf8ByteSize = 12 ↔ ∀ c ∈ picked.toList, c.toNat < 128 := by
  have size := Text.utf8ByteSize_eq_length_iff picked.toList
  rwa [String.ofList_toList, length_obfuscateKey obfuscated] at size

theorem looksLikeDigest_hexDigest (message : List UInt8) :
    looksLikeDigest (Digest.Sha256.hexDigest message) = true := by
  have digits : ∀ c ∈ (Digest.Sha256.digest message).flatMap Text.hexByte,
      Text.isHexDigit c = true := by
    intro c member
    rcases List.mem_flatMap.mp member with ⟨byte, -, inByte⟩
    exact Text.isHexDigit_of_mem_hexByte inByte
  have size := (Text.utf8ByteSize_eq_length_iff _).mpr
    fun c member => Text.toNat_lt_of_isHexDigit (digits c member)
  rw [Text.length_flatMap_hexByte, Digest.Sha256.length_digest] at size
  rw [looksLikeDigest, Digest.Sha256.hexDigest, size, String.toList_ofList,
    List.all_eq_true.mpr digits]
  rfl

theorem isZiaLogin_iff {key picked name secret : String} {now : UInt64}
    (obfuscated : obfuscateKey key now = .ok picked) :
    isZiaLogin [("username", .string name), ("timestamp", .string (Text.decimal now.toNat)),
        ("password", .string secret), ("apiKey", .string picked)] = true ↔
      AreCustomers now (.zia name secret key) := by
  have size := utf8ByteSize_obfuscateKey obfuscated
  simp [isZiaLogin, AreCustomers, Json.Found.text?, Assoc.find?, Json.Value.toString?, obfuscated,
    size, and_assoc]

theorem isZdxLogin_iff (id secret : String) (now : UInt64) :
    isZdxLogin [("timestamp", .ofWord (now / 1000)),
        ("key_secret", .string (Authenticator.hashSecret secret (now / 1000))),
        ("key_id", .string id)] = true ↔
      AreCustomers now (.zdx id secret) := by
  have digest : looksLikeDigest (Authenticator.hashSecret secret (now / 1000)) = true :=
    looksLikeDigest_hexDigest _
  have begun : 0 < now / 1000 ↔ 1000 ≤ now.toNat := by
    rw [UInt64.lt_iff_toNat_lt, UInt64.toNat_div]
    exact Nat.div_pos_iff.trans (by simp)
  simp [isZdxLogin, AreCustomers, Json.Found.text?, Json.Found.natural?, Assoc.find?,
    Json.Value.toString?, Json.Value.ofWord, Json.Number.toWord64?, digest, begun]

/-- Whatever logs in, a sandbox goes by the credentials alone. -/
theorem exists_answerLogin (supply : TokenSupply) {authenticator : Authenticator} {now : UInt64}
    {login : Http.Request} (built : authenticator.loginRequest now = .ok login) (url : Url) :
    ∃ isGood rejection,
      loginHandler supply authenticator.credentials.flow (Request.ofClient login url) =
        answerLogin supply isGood (welcome · authenticator.credentials.flow) rejection ∧
      (isGood = true ↔ AreCustomers now authenticator.credentials) ∧ 300 ≤ rejection.status := by
  rcases authenticator with ⟨credentials, root⟩
  cases credentials with
  | oneApi id secret =>
      rcases Except.ok.inj built with rfl
      refine ⟨_, _, by
        simp only [Credentials.flow, loginHandler, gatewayLogin, formFields_withForm]
        rfl, ?_, by decide⟩
      simp [Query.lastValue?, holdsClient, AreCustomers]
  | zia name secret key =>
      rcases exists_of_bind_eq_ok built with ⟨picked, obfuscated, same⟩
      rcases Except.ok.inj same with rfl
      refine ⟨_, _, by
        simp only [Credentials.flow, loginHandler, ziaLogin,
          jsonFields_withJson _ _ (readShape_ziaShape ..)]
        rfl, isZiaLogin_iff obfuscated, by decide⟩
  | zpa id secret =>
      rcases Except.ok.inj built with rfl
      refine ⟨_, _, by
        simp only [Credentials.flow, loginHandler, zpaLogin, formFields_withForm]
        rfl, ?_, by decide⟩
      simp [Query.lastValue?, holdsClient, AreCustomers]
  | zcc key secret =>
      rcases Except.ok.inj built with rfl
      refine ⟨_, _, by
        simp only [Credentials.flow, loginHandler, zccLogin,
          jsonFields_withJson _ _ (readShape_zccShape ..)]
        rfl, ?_, by decide⟩
      simp [isZccLogin, AreCustomers, Json.Found.text?, Assoc.find?, Json.Value.toString?]
  | zdx id secret =>
      rcases Except.ok.inj built with rfl
      refine ⟨_, _, by
        simp only [Credentials.flow, loginHandler, zdxLogin,
          jsonFields_withJson _ _ (readShape_zdxShape ..)]
        rfl, isZdxLogin_iff id secret now, by decide⟩

end Judging

section Agreeing

theorem exists_loginTarget {root : String} (origin : Url.IsOrigin (Text.dropTrailing '/' root))
    (credentials : Credentials) :
    ∃ url, Url.parse (Authenticator.ofRoot root credentials).loginUrl = .ok url ∧
      url.target = (Authenticator.loginPath credentials.flow).toList := by
  obtain ⟨path, starts, written, last⟩ : ∃ path,
      (Authenticator.loginPath credentials.flow).toList = '/' :: path ∧
        Url.isWrittenPath path = true ∧ (path.getLast?).all (0x20 < ·.toNat) = true := by
    cases credentials.flow with
    | oneApi => exact ⟨"oauth2/v1/token".toList, rfl, by decide, by decide⟩
    | zia => exact ⟨"api/v1/authenticatedSession".toList, rfl, by decide, by decide⟩
    | zpa => exact ⟨"signin".toList, rfl, by decide, by decide⟩
    | zcc => exact ⟨"auth/v1/login".toList, rfl, by decide, by decide⟩
    | zdx => exact ⟨"v1/oauth/token".toList, rfl, by decide, by decide⟩
  have visible : ∀ c, path.getLast? = some c → 0x20 < c.toNat := by
    intro c found
    simpa [found] using last
  rcases Url.parse_below origin (Url.isPlainPath_of_isWrittenPath written) visible
    with ⟨url, read, -, noQuery, rendered⟩
  have address : (Authenticator.ofRoot root credentials).loginUrl =
      Text.dropTrailing '/' root ++ String.ofList ('/' :: path) := by
    rw [← starts, String.ofList_toList]
    rfl
  refine ⟨url, address ▸ read, ?_⟩
  rw [Url.target, noQuery, rendered, (Url.isWritten_of_isWrittenPath written).writtenPath, starts]
  exact List.append_nil _

theorem isAuthorized_authorize {request : Http.Request} (bare : HasNoCredentials request)
    {token : Token} (isText : IsTokenText token.value) {state : State}
    (accepted : state.accepts token.value = true) (url : Url) :
    isAuthorized (Request.ofClient (token.authorize request) url) state = true := by
  simp [isAuthorized, presentedToken?_authorize bare isText, accepted]

theorem toNat_lifetime (now : UInt64) (flow : LoginFlow) :
    (Saturating.add now (lifetime flow)).toNat =
      min (now.toNat + (if flow = .zia then 1800 else 3600) * 1000) (2 ^ 64 - 1) := by
  rw [Saturating.toNat_add]
  cases flow <;> rfl

theorem readLogin_of_refused {response : Http.Response} (refused : response.isSuccess = false)
    (authenticator : Authenticator) (now : UInt64) :
    authenticator.readLogin response now =
      .error (.loginRefused authenticator.credentials.flow response.status response.body) := by
  simp [Authenticator.readLogin, refused]

theorem accepts_issue (supply : TokenSupply) (state : State) :
    (state.issue supply).2.accepts (supply state.logins) = true := by
  simp [State.issue, State.accepts]

/-- A sandbox welcomes a login just if the credentials are its customer's. The client reads the
token that was issued from the answer, with the lifetime of its flow, and whatever request it
attaches the token to is let in. Any other login is an error for the client and leaves the sandbox
as it is. -/
theorem welcomes_iff_areCustomers {supply : TokenSupply}
    (issues : ∀ login, IsTokenText (supply login)) {root : String}
    (origin : Url.IsOrigin (Text.dropTrailing '/' root)) (credentials : Credentials) (now : UInt64)
    {login : Http.Request}
    (built : (Authenticator.ofRoot root credentials).loginRequest now = .ok login) (state : State) :
    ∃ response after, send supply login state = (.ok response, after) ∧
      (response.status = 200 ↔ AreCustomers now credentials) ∧
      (AreCustomers now credentials →
        after = (state.issue supply).2 ∧
        ∃ token, (Authenticator.ofRoot root credentials).readLogin response now = .ok token ∧
          token.value = (state.issue supply).1 ∧
          token.kind = tokenKind credentials.flow ∧
          token.expiresAt.toNat =
            min (now.toNat + (if credentials.flow = .zia then 1800 else 3600) * 1000) (2 ^ 64 - 1) ∧
          ∀ request url, HasNoCredentials request →
            isAuthorized (Request.ofClient (token.authorize request) url) after = true) ∧
      (¬AreCustomers now credentials →
        after = state ∧
        ∃ error, (Authenticator.ofRoot root credentials).readLogin response now = .error error ∧
          error.kind = .authentication) := by
  rcases exists_loginTarget origin credentials with ⟨url, parsed, target⟩
  rcases exists_answerLogin supply built url with ⟨isGood, rejection, handled, good, failure⟩
  have sent := send_loginRequest supply built parsed target state
  rw [handled] at sent
  cases isGood with
  | true =>
      have customers : AreCustomers now credentials := good.mp rfl
      have isText := issues state.logins
      refine ⟨_, _, sent, ⟨fun _ => customers, fun _ => status_welcome ..⟩, fun _ => ⟨rfl, ?_⟩,
        fun others => absurd customers others⟩
      refine ⟨_, readLogin_welcome isText (.ofRoot root credentials) now, rfl, rfl, ?_, ?_⟩
      · exact toNat_lifetime ..
      · intro request url bare
        exact isAuthorized_authorize bare isText (accepts_issue supply state) url
  | false =>
      have others : ¬AreCustomers now credentials := fun customers => nomatch good.mpr customers
      have refused : rejection.toResponse.isSuccess = false := by
        simp [Http.Response.isSuccess, Reply.toResponse]
        omega
      refine ⟨_, _, sent, ⟨fun success => ?_, fun customers => absurd customers others⟩,
        fun customers => absurd customers others, fun _ => ⟨rfl, ?_⟩⟩
      · have status : rejection.status = 200 := success
        omega
      · exact ⟨_, readLogin_of_refused refused .., rfl⟩

/-- The login of an administrator, at a time that picks twelve letters of the key. -/
def administrator : Credentials :=
  .zia username password "abcdefghijklmnop"

/-- The sandbox on this machine lets its administrator in for half an hour. -/
theorem welcomes_administrator :
    AreCustomers 1700000123456 administrator ∧
    ∃ login response after token,
      (Authenticator.ofRoot "http://127.0.0.1:3000" administrator).loginRequest 1700000123456 =
        .ok login ∧
      send countingSupply login .empty = (.ok response, after) ∧ response.status = 200 ∧
      (Authenticator.ofRoot "http://127.0.0.1:3000" administrator).readLogin response
        1700000123456 = .ok token ∧
      token.value = countingSupply 0 ∧ token.expiresAt.toNat = 1700001923456 := by
  have picked : obfuscateKey "abcdefghijklmnop" 1700000123456 = .ok "bcdefgcidjek" :=
    eq_ok_of_toOption (by decide +kernel)
  have ascii : "bcdefgcidjek".toList.all (·.toNat < 128) = true := by decide
  have customers : AreCustomers 1700000123456 administrator := by
    refine ⟨rfl, rfl, fun key obfuscated c member => ?_⟩
    rcases Except.ok.inj (picked.symm.trans obfuscated) with rfl
    simpa using List.all_eq_true.mp ascii c member
  obtain ⟨login, built⟩ : ∃ login, (Authenticator.ofRoot "http://127.0.0.1:3000"
      administrator).loginRequest 1700000123456 = .ok login := by
    simp only [Authenticator.loginRequest, Authenticator.ofRoot, administrator, picked]
    exact ⟨_, rfl⟩
  rcases welcomes_iff_areCustomers isTokenText_countingSupply isOrigin_local administrator
    1700000123456 built .empty with ⟨response, after, sent, welcomed, has, -⟩
  rcases has customers with ⟨-, token, read, value, -, expires, -⟩
  exact ⟨customers, login, response, after, token, built, sent, welcomed.mpr customers, read, value,
    expires.trans (by decide +kernel)⟩

end Agreeing

end CloudAdmin.Sandbox
