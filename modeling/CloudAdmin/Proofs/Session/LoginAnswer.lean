import CloudAdmin.Proofs.Json.Shapes
import CloudAdmin.Proofs.Session.TokenCourse
import CloudAdmin.Proofs.Text.Splitting

/-!
# What the answer to a login brings

Four flows find the token in a field of the body, and one in the cookies that a response sets. Main
statement: a login yields a token exactly if the response is a success that brings one, the value of
the token is the one that is brought, and every other answer fails as a login. A cookie is passed
over if the session in it is empty. In a body the field has to be there, but its text may be empty,
and then so is the token.
-/

namespace CloudAdmin.Authenticator

/-- How the body of an answer tells a token: the name of its field, what kind of token it is, the
shape of the body, and how long the token lives. -/
structure TokenBody where
  name : String
  kind : TokenKind
  shape : List Json.FieldShape
  life : Json.Found → UInt64

/-- A token under a name that comes with its lifetime. -/
def TokenBody.bearer (name : String) : TokenBody :=
  ⟨name, .bearer, tokenShape name, fun found => lifetime (found.optional? "expires_in")⟩

/-- How the answers to a flow tell a token in their body. -/
def tokenBody? : LoginFlow → Option TokenBody
  | .oneApi | .zpa => some (.bearer "access_token")
  | .zdx => some (.bearer "token")
  | .zcc => some ⟨"jwtToken", .authTokenHeader, [⟨"jwtToken", .text⟩], fun _ => defaultLifetime⟩
  | .zia => none

/-- Whether a part of a cookie names a session. An empty session is none. -/
def NamesSession (part : List Char) (session : String) : Prop :=
  Text.trimBlanks part = "JSESSIONID=".toList ++ session.toList ∧ session ≠ ""

/-- The parts of all cookies that a response sets, in their order. -/
def cookieParts (response : Http.Response) : List (List Char) :=
  (response.headerValues "set-cookie").flatMap fun cookie => Url.splitAll ';' cookie.toList

/-- What a response brings in answer to a flow: the text in a field of its body, or the first
session that its cookies name. -/
inductive Brings (response : Http.Response) : LoginFlow → String → Prop where
  | field {flow : LoginFlow} {body : TokenBody} {found : Json.Found} {value : String}
      (told : tokenBody? flow = some body)
      (isOfShape : Json.IsOfShape body.shape (Json.scan response.body) found)
      (holds : Assoc.find? body.name found = some (.string value)) : Brings response flow value
  | cookie {before after : List (List Char)} {part : List Char} {session : String}
      (parts : cookieParts response = before ++ part :: after) (names : NamesSession part session)
      (first : ∀ other ∈ before, ∀ session, ¬NamesSession other session) :
      Brings response .zia session

section Cookies

variable {response : Http.Response} {part : List Char} {session : String}

theorem sessionInPart?_eq_some_iff :
    sessionInPart? part = some session ↔ NamesSession part session := by
  have noMark : ∀ c ∈ "JSESSIONID".toList, c ≠ '=' := by
    have all : "JSESSIONID".toList.all (· != '=') = true := rfl
    intro c member
    simpa using List.all_eq_true.mp all c member
  unfold sessionInPart?
  constructor
  · intro found
    split at found
    · rename_i name value cut
      split at found
      · rename_i isSession
        rcases isSession with ⟨rfl, notEmpty⟩
        rcases Option.some.inj found with rfl
        refine ⟨?_, ?_⟩
        · rw [Url.eq_append_of_splitFirst_eq cut, String.toList_ofList]
          simp
        · intro empty
          exact notEmpty (by simpa using congrArg String.toList empty)
      · cases found
    · cases found
  · rintro ⟨names, notEmpty⟩
    have cut : Url.splitFirst '=' (Text.trimBlanks part) =
        ("JSESSIONID".toList, some session.toList) := by
      rw [names]
      exact Url.splitFirst_append noMark session.toList
    have some_ : session.toList ≠ [] := by simpa using notEmpty
    simp [cut, some_]

theorem findSome?_flatMap {Item Part Result : Type} (parts : Item → List Part)
    (find? : Part → Option Result) (items : List Item) :
    items.findSome? (fun item => (parts item).findSome? find?) =
      (items.flatMap parts).findSome? find? := by
  induction items with
  | nil => rfl
  | cons item items ih =>
      rw [List.flatMap_cons, List.findSome?_append, List.findSome?_cons, ← ih]
      cases (parts item).findSome? find? <;> rfl

/-- The session that a response sets is the first one that a part of its cookies names. -/
theorem session?_eq_some_iff : session? response = some session ↔ Brings response .zia session := by
  have flat : session? response = (cookieParts response).findSome? sessionInPart? :=
    findSome?_flatMap _ _ _
  rw [flat, List.findSome?_eq_some_iff]
  constructor
  · rintro ⟨before, part, after, parts, names, first⟩
    refine .cookie parts (sessionInPart?_eq_some_iff.mp names) ?_
    intro other earlier session named
    have none := first other earlier
    rw [sessionInPart?_eq_some_iff.mpr named] at none
    cases none
  · intro brings
    cases brings with
    | field told => cases told
    | @cookie before after part _ parts names first =>
        refine ⟨before, part, after, parts, sessionInPart?_eq_some_iff.mpr names, ?_⟩
        intro other earlier
        cases named : sessionInPart? other with
        | none => rfl
        | some session => exact absurd (sessionInPart?_eq_some_iff.mp named) (first other earlier _)

end Cookies

section Answers

variable {authenticator : Authenticator} {response : Http.Response} {now : UInt64} {token : Token}
  {body : TokenBody} {value : String} {error : ApiError}

/-- Read a token as a body tells it. -/
def TokenBody.read (now : UInt64) (text : String) (body : TokenBody) : Except ApiError Token :=
  readToken body.name body.kind body.shape body.life now text

theorem TokenBody.read_eq_ok_iff {text : String} :
    body.read now text = .ok token ↔
      ∃ found value, Json.IsOfShape body.shape (Json.scan text) found ∧
        Assoc.find? body.name found = some (.string value) ∧
        token = ⟨value, body.kind, Saturating.add now (body.life found)⟩ := by
  simp only [← Json.readShape_eq_ok_iff, ← Json.Found.text?_eq_some_iff]
  constructor
  · intro read
    rcases exists_of_bind_eq_ok read with ⟨found, shaped, rest⟩
    unfold readAnswer at shaped
    split at shaped <;> cases shaped
    rename_i shaped
    split at rest <;> cases rest
    rename_i value held
    exact ⟨found, value, shaped, held, rfl⟩
  · rintro ⟨found, value, shaped, held, rfl⟩
    simp only [TokenBody.read, readToken, readAnswer, shaped, bind, Except.bind, held]
    rfl

theorem TokenBody.kind_of_read_eq_error {text : String}
    (failed : body.read now text = .error error) : error.kind = .authentication := by
  rcases eq_or_exists_of_bind_eq_error failed with unread | ⟨found, -, missing⟩
  · unfold readAnswer at unread
    split at unread <;> cases unread
    rfl
  · split at missing <;> cases missing
    rfl

theorem readLogin_of_told (success : response.isSuccess = true)
    (told : tokenBody? authenticator.credentials.flow = some body) :
    authenticator.readLogin response now = body.read now response.body := by
  simp only [readLogin, success, Bool.not_true, Bool.false_eq_true, if_false]
  cases flow : authenticator.credentials.flow <;> rw [flow] at told <;> cases told <;> rfl

/-- The token in a field of a body lives as long as the body says. -/
theorem readLogin_of_bearer {name : String} {found : Json.Found}
    (success : response.isSuccess = true)
    (told : tokenBody? authenticator.credentials.flow = some (.bearer name))
    (isOfShape : Json.IsOfShape (tokenShape name) (Json.scan response.body) found)
    (holds : Assoc.find? name found = some (.string value)) :
    authenticator.readLogin response now =
      .ok ⟨value, .bearer, Saturating.add now (lifetime (found.optional? "expires_in"))⟩ := by
  rw [readLogin_of_told success told]
  exact TokenBody.read_eq_ok_iff.mpr ⟨found, value, isOfShape, holds, rfl⟩

theorem readLogin_of_cookies (success : response.isSuccess = true)
    (flow : authenticator.credentials.flow = .zia) :
    authenticator.readLogin response now =
      match session? response with
      | some session => .ok ⟨session, .sessionCookie, Saturating.add now sessionLifetime⟩
      | none => .error .noSessionCookie := by
  cases set_ : session? response <;> simp [readLogin, success, flow, set_]

theorem brings_iff_of_told {flow : LoginFlow} (told : tokenBody? flow = some body) :
    Brings response flow value ↔ ∃ found,
      Json.IsOfShape body.shape (Json.scan response.body) found ∧
        Assoc.find? body.name found = some (.string value) := by
  constructor
  · intro brings
    cases brings with
    | field told' isOfShape holds =>
        rcases Option.some.inj (told.symm.trans told') with rfl
        exact ⟨_, isOfShape, holds⟩
    | cookie parts names first => cases told
  · rintro ⟨found, isOfShape, holds⟩
    exact .field told isOfShape holds

/-- Nothing brings an empty token but a body whose own field is empty. -/
theorem brings_empty_iff {flow : LoginFlow} :
    Brings response flow "" ↔ ∃ body found, tokenBody? flow = some body ∧
      Json.IsOfShape body.shape (Json.scan response.body) found ∧
      Assoc.find? body.name found = some (.string "") := by
  constructor
  · intro brings
    cases brings with
    | field told isOfShape holds => exact ⟨_, _, told, isOfShape, holds⟩
    | cookie parts names first => exact absurd rfl names.2
  · rintro ⟨body, found, told, isOfShape, holds⟩
    exact .field told isOfShape holds

theorem tokenBody?_eq_none_iff {flow : LoginFlow} : tokenBody? flow = none ↔ flow = .zia := by
  cases flow <;> simp [tokenBody?]

/-- A token is read from a success that brings one, and has the value that is brought. -/
theorem exists_readLogin_eq_ok_iff :
    (∃ token, authenticator.readLogin response now = .ok token ∧ token.value = value) ↔
      response.isSuccess = true ∧ Brings response authenticator.credentials.flow value := by
  by_cases success : response.isSuccess = true
  · cases told : tokenBody? authenticator.credentials.flow with
    | some body =>
        rw [readLogin_of_told success told, brings_iff_of_told told]
        simp only [TokenBody.read_eq_ok_iff]
        constructor
        · rintro ⟨token, ⟨found, value, isOfShape, holds, rfl⟩, rfl⟩
          exact ⟨success, found, isOfShape, holds⟩
        · rintro ⟨-, found, isOfShape, holds⟩
          exact ⟨_, ⟨found, value, isOfShape, holds, rfl⟩, rfl⟩
    | none =>
        have flow := tokenBody?_eq_none_iff.mp told
        rw [readLogin_of_cookies success flow, flow, ← session?_eq_some_iff]
        cases session? response <;> simp [success]
  · simp [readLogin, success]

/-- Whatever is wrong with an answer, it is the login that failed. -/
theorem kind_of_readLogin_eq_error (failed : authenticator.readLogin response now = .error error) :
    error.kind = .authentication := by
  by_cases success : response.isSuccess = true
  · cases told : tokenBody? authenticator.credentials.flow with
    | some body =>
        rw [readLogin_of_told success told] at failed
        exact TokenBody.kind_of_read_eq_error failed
    | none =>
        rw [readLogin_of_cookies success (tokenBody?_eq_none_iff.mp told)] at failed
        split at failed <;> cases failed
        rfl
  · simp only [readLogin, success, Bool.not_false, if_true] at failed
    cases failed
    rfl

end Answers

section Keeping

variable {World : Type} {session : Session World} {state : SessionState World} {kept : Token}

/-- What a session keeps once it has a token is what it kept before, or was read from an answer to a
login. -/
theorem kept_of_perform_token (keeps : (session.token.perform state).2.token = some kept) :
    state.token = some kept ∨
      ∃ response now, session.authenticator.readLogin response now = .ok kept := by
  rw [Session.perform_token] at keeps
  simp only [Session.perform_login] at keeps
  split at keeps
  · exact .inl keeps
  split at keeps
  · exact .inl keeps
  split at keeps
  · exact .inl keeps
  split at keeps
  · exact .inl keeps
  · rename_i response _ _ read
    rcases Option.some.inj keeps with rfl
    exact .inr ⟨_, _, read⟩

end Keeping

/-- A login yields a token exactly if the response is a success that brings one, and the value of
the token is what is brought; every other answer is an error of authentication. The value is empty
exactly if a success has a body whose own field is empty. What a session keeps was kept before or
has been brought by a success. -/
theorem readLogin_takes_what_is_brought (authenticator : Authenticator) (response : Http.Response)
    (now : UInt64) :
    (∀ value, (∃ token, authenticator.readLogin response now = .ok token ∧ token.value = value) ↔
      (200 ≤ response.status ∧ response.status < 300) ∧
        Brings response authenticator.credentials.flow value) ∧
    (∀ error, authenticator.readLogin response now = .error error →
      error.kind = .authentication) ∧
    ((∃ token, authenticator.readLogin response now = .ok token ∧ token.value = "") ↔
      (200 ≤ response.status ∧ response.status < 300) ∧
        ∃ body found, tokenBody? authenticator.credentials.flow = some body ∧
          Json.IsOfShape body.shape (Json.scan response.body) found ∧
          Assoc.find? body.name found = some (.string "")) ∧
    ∀ (World : Type) (host : Host World) (state : SessionState World) (kept : Token),
      ((Session.token ⟨host, authenticator⟩).perform state).2.token = some kept →
        state.token = some kept ∨ ∃ answer : Http.Response,
          (200 ≤ answer.status ∧ answer.status < 300) ∧
            Brings answer authenticator.credentials.flow kept.value := by
  have success_iff (response : Http.Response) :
      response.isSuccess = true ↔ 200 ≤ response.status ∧ response.status < 300 := by
    simp [Http.Response.isSuccess]
  refine ⟨?_, ?_, ?_, ?_⟩
  · intro value
    rw [← success_iff]
    exact exists_readLogin_eq_ok_iff
  · intro error failed
    exact kind_of_readLogin_eq_error failed
  · rw [← success_iff, ← brings_empty_iff]
    exact exists_readLogin_eq_ok_iff
  · intro World host state kept keeps
    rcases kept_of_perform_token keeps with before | ⟨answer, now, read⟩
    · exact .inl before
    · have brought := exists_readLogin_eq_ok_iff.mp ⟨kept, read, rfl⟩
      exact .inr ⟨answer, (success_iff answer).mp brought.1, brought.2⟩

/-- A user of a product that has sessions. -/
def sessionUser : Authenticator :=
  ⟨.zia "admin" "password" "abcdefghijkl", "https://h"⟩

/-- An answer with two cookies, in the first of which the session is empty. -/
def twoCookies : Http.Response :=
  ⟨200, [("set-cookie", "JSESSIONID=; Path=/"), ("set-cookie", "lang=en; JSESSIONID=5f")], ""⟩

/-- A customer of the gateway. -/
def gatewayCustomer : Authenticator :=
  ⟨.oneApi "cid" "s3cr3t", "https://h"⟩

/-- A success with an empty token. -/
def emptyAnswer : Http.Response :=
  ⟨200, [], "\x7b\"access_token\":\"\",\"expires_in\":3600\x7d"⟩

/-- The world of a customer to whom everything is answered with an empty token. -/
def emptyHost : Host Traffic :=
  Transport.host (fun _ => 1700000123456) fun _ => .ok emptyAnswer

/-- The session is found in the second cookie, and the empty token in its field. -/
theorem readLogin_takes_what_is_brought_of_two :
    Brings twoCookies .zia "5f" ∧
      (∃ body found, tokenBody? .oneApi = some body ∧
        Json.IsOfShape body.shape (Json.scan emptyAnswer.body) found ∧
        Assoc.find? body.name found = some (.string "")) ∧
      ∃ answer : Http.Response, (200 ≤ answer.status ∧ answer.status < 300) ∧
        Brings answer .oneApi "" := by
  rcases readLogin_takes_what_is_brought sessionUser twoCookies 0 with ⟨sessions, -, -, -⟩
  rcases readLogin_takes_what_is_brought gatewayCustomer emptyAnswer 1700000123456
    with ⟨-, -, empties, keeping⟩
  have session : sessionUser.readLogin twoCookies 0 = .ok ⟨"5f", .sessionCookie, 1800000⟩ :=
    eq_ok_of_toOption (by decide +kernel)
  have empty : gatewayCustomer.readLogin emptyAnswer 1700000123456 =
      .ok ⟨"", .bearer, 1700003723456⟩ := eq_ok_of_toOption (by decide +kernel)
  refine ⟨((sessions "5f").mp ⟨_, session, rfl⟩).2, (empties.mp ⟨_, empty, rfl⟩).2, ?_⟩
  rcases keeping Traffic emptyHost ⟨none, ⟨[], 0⟩⟩ ⟨"", .bearer, 1700003723456⟩
    (by decide +kernel) with before | brought
  · cases before
  · exact brought

/-- An empty token is taken from a success, and a session keeps it. -/
theorem token_keeps_empty_token :
    gatewayCustomer.readLogin emptyAnswer 1700000123456 = .ok ⟨"", .bearer, 1700003723456⟩ ∧
      ((Session.token ⟨emptyHost, gatewayCustomer⟩).perform ⟨none, ⟨[], 0⟩⟩).2.token =
        some ⟨"", .bearer, 1700003723456⟩ :=
  ⟨eq_ok_of_toOption (by decide +kernel), by decide +kernel⟩

end CloudAdmin.Authenticator
