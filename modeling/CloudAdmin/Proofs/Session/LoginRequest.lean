import CloudAdmin.Login.Authenticator

/-!
# The request that logs in

A login is a request of one shape: everything but its body follows from the flow and the root, so
nothing but the body can depend on a secret or on the time. It can always be built, except that an
API key has to be long enough for the characters that are picked from it.
-/

namespace CloudAdmin

namespace Authenticator

variable {authenticator : Authenticator} {now : UInt64} {login : Http.Request}

def loginType : LoginFlow → String
  | .oneApi | .zpa => Http.formType
  | .zia | .zcc | .zdx => Http.jsonType

def loginWith (body : String) (authenticator : Authenticator) : Http.Request :=
  ⟨.post, authenticator.loginUrl, [], [("content-type", loginType authenticator.credentials.flow)],
    some body⟩

theorem exists_body_of_loginRequest (built : authenticator.loginRequest now = .ok login) :
    ∃ body, login = authenticator.loginWith body := by
  rcases authenticator with ⟨credentials, root⟩
  cases credentials with
  | oneApi | zpa | zcc | zdx =>
      cases built
      exact ⟨_, rfl⟩
  | zia username password apiKey =>
      simp only [loginRequest] at built
      cases obfuscated : obfuscateKey apiKey now with
      | error error => simp [obfuscated, bind, Except.bind] at built
      | ok key =>
          simp only [obfuscated, bind, Except.bind, pure, Except.pure, Except.ok.injEq] at built
          subst built
          exact ⟨_, rfl⟩

/-- The request that ends a session goes where the session began. -/
theorem eq_of_logoutRequest? {token : Token} {logout : Http.Request}
    (ends : authenticator.logoutRequest? token = some logout) :
    logout = token.authorize (.bare .delete authenticator.loginUrl) := by
  rcases authenticator with ⟨credentials, root⟩
  cases credentials with
  | zia username password apiKey => exact (Option.some.inj ends).symm
  | oneApi | zpa | zcc | zdx => cases ends

end Authenticator

/-- What a body is says nothing under the name of a token's header. -/
theorem Token.values_contentType (token : Token) (value : String) :
    Http.Headers.values token.header.1 [("content-type", value)] = [] := by
  rcases token with ⟨text, kind, expiresAt⟩
  have other : Text.sameName "content-type" (header ⟨text, kind, expiresAt⟩).1 = false := by
    cases kind <;> (simp only [header]; decide)
  simp [Http.Headers.values, other]

end CloudAdmin
