import Mathlib.Data.List.Forall2
import CloudAdmin.ClientCall
import CloudAdmin.Proofs.Client.Coupling
import CloudAdmin.Proofs.Client.Replay
import CloudAdmin.Proofs.Session.KeyObfuscation
import CloudAdmin.Proofs.Session.LoginRequest
import CloudAdmin.Proofs.Settings.Resolving

/-!
# Where secrets go

A secret is put into the bodies of logins and nowhere else. This is said of two clients whose
settings differ in their secrets alone, and which are answered by the same script: whatever is asked
of them, nobody can tell them apart by what they yield, by the tokens they keep, by the requests
they send other than in the bodies of logins, or by the texts that show them.
-/

namespace CloudAdmin

/-- Whether settings of a login differ in their secrets alone. Keys from which characters are picked
have to be long enough. -/
inductive LoginSettings.DifferInSecrets : LoginSettings → LoginSettings → Prop where
  | oneApi {clientId vanityDomain cloud : String} {customerId : Option String}
      (left right : Secret) :
      DifferInSecrets (.oneApi clientId left vanityDomain cloud customerId)
        (.oneApi clientId right vanityDomain cloud customerId)
  | zia {username cloud : String} (passwordL passwordR : Secret) {keyL keyR : Secret}
      (longL : 12 ≤ keyL.expose.length) (longR : 12 ≤ keyR.expose.length) :
      DifferInSecrets (.zia username passwordL keyL cloud) (.zia username passwordR keyR cloud)
  | zpa {clientId customerId cloud : String} (left right : Secret) :
      DifferInSecrets (.zpa clientId left customerId cloud) (.zpa clientId right customerId cloud)
  | zcc {apiKey cloud : String} (left right : Secret) :
      DifferInSecrets (.zcc apiKey left cloud) (.zcc apiKey right cloud)
  | zdx {keyId cloud : String} (left right : Secret) :
      DifferInSecrets (.zdx keyId left cloud) (.zdx keyId right cloud)

/-- Whether settings differ in the secrets of their logins alone. -/
structure Settings.DifferInSecrets (left right : Settings) : Prop where
  logins : left.login.DifferInSecrets right.login
  others : right = { left with login := right.login }

/-- The transport that answers the requests it is sent with the entries of a script in turn. -/
def Transport.scripted (script : Nat → Except ApiError Http.Response) : Transport :=
  fun sent => script sent.length

/-- Whether requests are the same, or the logins of two clients at one time, which differ in their
bodies alone. -/
inductive Http.Request.SameButLogin (left right : Authenticator) :
    Http.Request → Http.Request → Prop where
  | same (request : Http.Request) : SameButLogin left right request request
  | login {now : UInt64} {loginL loginR : Http.Request}
      (builtL : left.loginRequest now = .ok loginL) (builtR : right.loginRequest now = .ok loginR)
      (sameHead : loginL = { loginR with body := loginL.body }) :
      SameButLogin left right loginL loginR

namespace Authenticator

/-- Whether authenticators agree in everything but what they prove the identity of a client with,
and can always build a login. -/
structure AreAlike (left right : Authenticator) : Prop where
  sameFlow : left.credentials.flow = right.credentials.flow
  sameRoot : left.root = right.root
  buildsL : ∀ now, ∃ login, left.loginRequest now = .ok login
  buildsR : ∀ now, ∃ login, right.loginRequest now = .ok login

namespace AreAlike

variable {left right : Authenticator}

theorem loginUrl_eq (alike : AreAlike left right) : left.loginUrl = right.loginUrl := by
  rw [loginUrl, loginUrl, alike.sameRoot, alike.sameFlow]

theorem readLogin_eq (alike : AreAlike left right) (response : Http.Response) (now : UInt64) :
    left.readLogin response now = right.readLogin response now := by
  rw [readLogin, readLogin, alike.sameFlow]

theorem logoutRequest?_eq (alike : AreAlike left right) (token : Token) :
    left.logoutRequest? token = right.logoutRequest? token := by
  rw [logoutRequest?, logoutRequest?, alike.sameFlow, alike.loginUrl_eq]

theorem exists_login (alike : AreAlike left right) (now : UInt64) :
    ∃ loginL loginR, left.loginRequest now = .ok loginL ∧ right.loginRequest now = .ok loginR ∧
      Http.Request.SameButLogin left right loginL loginR := by
  rcases alike.buildsL now with ⟨loginL, builtL⟩
  rcases alike.buildsR now with ⟨loginR, builtR⟩
  refine ⟨loginL, loginR, builtL, builtR, .login builtL builtR ?_⟩
  rcases exists_body_of_loginRequest builtL with ⟨bodyL, rfl⟩
  rcases exists_body_of_loginRequest builtR with ⟨bodyR, rfl⟩
  rw [loginWith, loginWith, alike.loginUrl_eq, alike.sameFlow]

theorem ofRoot (root : String) {credentialsL credentialsR : Credentials}
    (sameFlow : credentialsL.flow = credentialsR.flow)
    (buildsL : ∀ now, ∃ login,
      (Authenticator.ofRoot root credentialsL).loginRequest now = .ok login)
    (buildsR : ∀ now, ∃ login,
      (Authenticator.ofRoot root credentialsR).loginRequest now = .ok login) :
    AreAlike (.ofRoot root credentialsL) (.ofRoot root credentialsR) :=
  ⟨sameFlow, rfl, buildsL, buildsR⟩

end AreAlike

theorem exists_loginRequest_zia {apiKey : String} (long : 12 ≤ apiKey.length)
    (root username password : String) (now : UInt64) :
    ∃ login, (Authenticator.ofRoot root (.zia username password apiKey)).loginRequest now =
      .ok login := by
  rcases exists_obfuscateKey long now with ⟨key, picked⟩
  simp only [loginRequest, ofRoot, picked, bind, Except.bind, pure, Except.pure]
  exact ⟨_, rfl⟩

end Authenticator

/-- Settings that differ in their secrets alone lead to the same routes and to authenticators that
are alike. -/
theorem Settings.DifferInSecrets.exists_resolve {left right : Settings}
    (differ : left.DifferInSecrets right) :
    ∃ authenticatorL authenticatorR routes,
      left.resolve = .ok (authenticatorL, routes) ∧ right.resolve = .ok (authenticatorR, routes) ∧
        authenticatorL.AreAlike authenticatorR := by
  rcases left with ⟨loginL, timeout, baseUrl, loginUrl, maxPages, maxResponseBytes⟩
  rcases right with ⟨loginR, timeout', baseUrl', loginUrl', maxPages', maxResponseBytes'⟩
  rcases differ with ⟨logins, others⟩
  cases others
  cases logins with
  | oneApi secretL secretR =>
      refine ⟨_, _, _, rfl, rfl, .ofRoot _ rfl ?_ ?_⟩
      · exact fun _ => ⟨_, rfl⟩
      · exact fun _ => ⟨_, rfl⟩
  | zia passwordL passwordR longL longR =>
      refine ⟨_, _, _, resolveOwn_eq rfl _ _, resolveOwn_eq rfl _ _, .ofRoot _ rfl ?_ ?_⟩
      · exact Authenticator.exists_loginRequest_zia longL _ _ _
      · exact Authenticator.exists_loginRequest_zia longR _ _ _
  | zpa secretL secretR | zcc secretL secretR | zdx secretL secretR =>
      refine ⟨_, _, _, resolveOwn_eq rfl _ _, resolveOwn_eq rfl _ _, .ofRoot _ rfl ?_ ?_⟩
      · exact fun _ => ⟨_, rfl⟩
      · exact fun _ => ⟨_, rfl⟩

theorem LoginSettings.DifferInSecrets.describe_eq {left right : LoginSettings}
    (differ : left.DifferInSecrets right) : left.describe = right.describe := by
  cases differ <;> rfl

theorem Settings.DifferInSecrets.describe_eq {left right : Settings}
    (differ : left.DifferInSecrets right) : left.describe = right.describe := by
  rw [differ.others, Settings.describe, Settings.describe, differ.logins.describe_eq]

theorem Authenticator.AreAlike.describe_eq {left right : Authenticator}
    (alike : AreAlike left right) :
    left.credentials.describe = right.credentials.describe := by
  rw [Credentials.describe, Credentials.describe, alike.sameFlow]

section Runs

variable {left right : Authenticator} {script : Nat → Except ApiError Http.Response}
  {clock : Nat → UInt64} {routes : Routes} {maxPages : Nat}

/-- Whether nobody can tell two states apart but by the bodies of the logins that were sent. -/
structure LookAlike (left right : Authenticator) (stateL stateR : SessionState Traffic) :
    Prop where
  sameToken : stateL.token = stateR.token
  sameReadings : stateL.world.readings = stateR.world.readings
  sameSent : List.Forall₂ (Http.Request.SameButLogin left right) stateL.world.sent
    stateR.world.sent

abbrev scriptedSession (script : Nat → Except ApiError Http.Response) (clock : Nat → UInt64)
    (authenticator : Authenticator) : Session Traffic :=
  ⟨(Transport.scripted script).host clock, authenticator⟩

abbrev scriptedClient (script : Nat → Except ApiError Http.Response) (clock : Nat → UInt64)
    (routes : Routes) (maxPages : Nat) (authenticator : Authenticator) : Client Traffic :=
  ⟨scriptedSession script clock authenticator, routes, maxPages⟩

namespace LookAlike

theorem agree_keep (token : Option Token) :
    Action.Agree (LookAlike left right) (Session.keep token) (Session.keep token) :=
  fun _ _ alike => ⟨rfl, rfl, alike.sameReadings, alike.sameSent⟩

/-- As many requests were sent on both sides, so the next entry of the script is the same. -/
theorem agree_send (script : Nat → Except ApiError Http.Response) (clock : Nat → UInt64)
    {requestL requestR : Http.Request}
    (same : Http.Request.SameButLogin left right requestL requestR) :
    Action.Agree (LookAlike left right) ((scriptedSession script clock left).send requestL)
      ((scriptedSession script clock right).send requestR) := by
  intro stateL stateR alike
  -- What was sent may differ, but a script only counts it.
  have length := alike.sameSent.length_eq
  refine ⟨?_, alike.sameToken, alike.sameReadings, ?_⟩
  · simp [Transport.host, Transport.scripted, length]
  · exact List.rel_append alike.sameSent (.cons same .nil)

theorem agree_login (alike : Authenticator.AreAlike left right) (now : UInt64) :
    Action.Agree (LookAlike left right) ((scriptedSession script clock left).login now)
      ((scriptedSession script clock right).login now) := by
  intro stateL stateR start
  rcases alike.exists_login now with ⟨loginL, loginR, builtL, builtR, same⟩
  rcases agree_send script clock same stateL stateR start with ⟨answers, after⟩
  simp only [Session.perform_send] at answers after
  -- Both logins get the same answer, and only the flow decides how it is read.
  rw [Session.perform_login, Session.perform_login]
  simp only [builtL, builtR, ← answers, ← alike.readLogin_eq]
  cases ((scriptedSession script clock left).host.send loginL stateL.world).1 with
  | error error => exact ⟨rfl, after⟩
  | ok response =>
      simp only []
      cases left.readLogin response now with
      | error error => exact ⟨rfl, after⟩
      | ok token => exact ⟨rfl, rfl, after.sameReadings, after.sameSent⟩

theorem agree_token (alike : Authenticator.AreAlike left right) :
    Action.Agree (LookAlike left right) (scriptedSession script clock left).token
      (scriptedSession script clock right).token := by
  rintro ⟨kept, sentL, readings⟩ ⟨_, sentR, _⟩ ⟨rfl, rfl, sameSent⟩
  have after : LookAlike left right ⟨kept, ⟨sentL, readings + 1⟩⟩ ⟨kept, ⟨sentR, readings + 1⟩⟩ :=
    ⟨rfl, rfl, sameSent⟩
  rw [Session.perform_token, Session.perform_token]
  simp only [Transport.host]
  cases kept.filter _ with
  | some token => exact ⟨rfl, after⟩
  | none => exact agree_login alike _ _ _ after

theorem agree_sendAuthorized (alike : Authenticator.AreAlike left right)
    (request : Http.Request) :
    Action.Agree (LookAlike left right)
      ((scriptedClient script clock routes maxPages left).sendAuthorized request)
      ((scriptedClient script clock routes maxPages right).sendAuthorized request) :=
  (agree_token alike).bind fun _ _ => agree_send script clock (.same _)

theorem agree_execute (alike : Authenticator.AreAlike left right) (request : Http.Request) :
    Action.Agree (LookAlike left right)
      ((scriptedClient script clock routes maxPages left).execute request)
      ((scriptedClient script clock routes maxPages right).execute request) := by
  refine (agree_sendAuthorized alike request).bind fun response _ => ?_
  by_cases isRefused : response.status = 401
  · simp only [isRefused, ne_eq, not_true_eq_false, if_false]
    exact (agree_keep none).bind fun _ _ => agree_sendAuthorized alike request
  · simp only [isRefused, ne_eq, not_false_eq_true, if_true]
    exact .pure _

/-- Only the flow and the URL decide whether a session is ended on its host. -/
theorem agree_logout (alike : Authenticator.AreAlike left right) :
    Action.Agree (LookAlike left right) (scriptedSession script clock left).logout
      (scriptedSession script clock right).logout := by
  rintro ⟨kept, sentL, readings⟩ ⟨_, sentR, _⟩ ⟨rfl, rfl, sameSent⟩
  have start : LookAlike left right ⟨none, ⟨sentL, readings⟩⟩ ⟨none, ⟨sentR, readings⟩⟩ :=
    ⟨rfl, rfl, sameSent⟩
  rw [Session.perform_logout, Session.perform_logout]
  simp only [alike.logoutRequest?_eq]
  cases kept.bind _ with
  | none => exact ⟨rfl, start⟩
  | some request =>
      rcases agree_send script clock (.same request) _ _ start with ⟨answers, after⟩
      simp only [Session.perform_send] at answers after
      simp only [← answers]
      cases ((scriptedSession script clock left).host.send request ⟨sentL, readings⟩).1 with
      | error error => exact ⟨rfl, after⟩
      | ok response => exact ⟨rfl, after⟩

theorem areCoupled (alike : Authenticator.AreAlike left right)
    (targets : List (Http.Method × String)) :
    Client.AreCoupled (LookAlike left right) targets
      (scriptedClient script clock routes maxPages left)
      (scriptedClient script clock routes maxPages right) where
  sameRoutes := rfl
  samePages := rfl
  execute request _ := agree_execute alike request
  readTime := by
    rintro ⟨kept, sentL, readings⟩ ⟨_, sentR, _⟩ ⟨rfl, rfl, sameSent⟩
    exact ⟨rfl, rfl, rfl, sameSent⟩

theorem agree_serve (alike : Authenticator.AreAlike left right) (call : ClientCall) :
    Action.Agree (LookAlike left right)
      ((scriptedClient script clock routes maxPages left).serve call)
      ((scriptedClient script clock routes maxPages right).serve call) := by
  cases call with
  | service call =>
      refine ((areCoupled alike _).run call (List.Subset.refl _)).bind fun _ _ => ?_
      exact .pure _
  | execute request => exact (agree_execute alike request).bind fun _ _ => .pure _
  | logout => exact (agree_logout alike).bind fun _ _ => .pure _

/-- What no single call gives away, no sequence of calls does. -/
theorem agree_serveAll (script : Nat → Except ApiError Http.Response) (clock : Nat → UInt64)
    (routes : Routes) (maxPages : Nat) (alike : Authenticator.AreAlike left right)
    (calls : List ClientCall) (stateL stateR : SessionState Traffic)
    (start : LookAlike left right stateL stateR) :
    let runL := (scriptedClient script clock routes maxPages left).serveAll calls stateL
    let runR := (scriptedClient script clock routes maxPages right).serveAll calls stateR
    runL.1 = runR.1 ∧ LookAlike left right runL.2 runR.2 := by
  intro runL runR
  induction calls generalizing stateL stateR with
  | nil => exact ⟨rfl, start⟩
  | cons call rest ih =>
      rcases agree_serve alike call stateL stateR start with ⟨result, after⟩
      rcases ih _ _ after with ⟨outcomes, final⟩
      refine ⟨?_, final⟩
      simp only [runL, runR, Client.serveAll, result, after.sameToken]
      exact congrArg _ outcomes

end LookAlike

end Runs

/-- Whatever is asked of two clients whose settings differ in their secrets alone, and whatever they
are answered, they yield the same and keep a token at the same times, they send the same but for the
bodies of logins, and their settings and credentials are shown by the same texts. -/
theorem Client.serveAll_hides_secrets {left right : Settings} (differ : left.DifferInSecrets right)
    (script : Nat → Except ApiError Http.Response) (clock : Nat → UInt64)
    (calls : List ClientCall) (kept : Option Token) (readings : Nat) :
    ∃ authenticatorL authenticatorR routes,
      left.resolve = .ok (authenticatorL, routes) ∧ right.resolve = .ok (authenticatorR, routes) ∧
        let clientL := scriptedClient script clock routes left.maxPages.toNat authenticatorL
        let clientR := scriptedClient script clock routes right.maxPages.toNat authenticatorR
        let endedL := clientL.serveAll calls ⟨kept, ⟨[], readings⟩⟩
        let endedR := clientR.serveAll calls ⟨kept, ⟨[], readings⟩⟩
        endedL.1 = endedR.1 ∧
          List.Forall₂ (Http.Request.SameButLogin authenticatorL authenticatorR)
            endedL.2.world.sent endedR.2.world.sent ∧
          left.describe = right.describe ∧
          authenticatorL.credentials.describe = authenticatorR.credentials.describe := by
  rcases differ.exists_resolve
    with ⟨authenticatorL, authenticatorR, routes, resolvedL, resolvedR, alike⟩
  refine ⟨authenticatorL, authenticatorR, routes, resolvedL, resolvedR, ?_⟩
  have samePages : right.maxPages = left.maxPages := by rw [differ.others]
  have start : LookAlike authenticatorL authenticatorR ⟨kept, ⟨[], readings⟩⟩
      ⟨kept, ⟨[], readings⟩⟩ := ⟨rfl, rfl, .nil⟩
  rcases LookAlike.agree_serveAll script clock routes left.maxPages.toNat alike calls _ _ start
    with ⟨outcomes, final⟩
  rw [samePages]
  exact ⟨outcomes, final.sameSent, differ.describe_eq, alike.describe_eq⟩

def administrator (password key : String) : Settings :=
  .ofLogin (.zia "admin@example.org" ⟨password⟩ ⟨key⟩ "zscaler")

theorem Client.serveAll_hides_password :
    let left := administrator "hunter2" "abcdefghijkl"
    let right := administrator "correct horse" "0123456789ab"
    let script : Nat → Except ApiError Http.Response := fun _ =>
      .ok ⟨200, [("set-cookie", "JSESSIONID=1")], "\x7b\x7d"⟩
    let calls : List ClientCall :=
      [.service (.list ⟨.product .zia, "users", .zia⟩ []), .execute (.read "/status"), .logout]
    left.DifferInSecrets right ∧ ∃ authenticatorL authenticatorR routes,
      left.resolve = .ok (authenticatorL, routes) ∧ right.resolve = .ok (authenticatorR, routes) ∧
        let clientL := scriptedClient script (fun _ => 0) routes left.maxPages.toNat authenticatorL
        let clientR := scriptedClient script (fun _ => 0) routes right.maxPages.toNat authenticatorR
        let endedL := clientL.serveAll calls ⟨none, ⟨[], 0⟩⟩
        let endedR := clientR.serveAll calls ⟨none, ⟨[], 0⟩⟩
        endedL.1 = endedR.1 ∧
          List.Forall₂ (Http.Request.SameButLogin authenticatorL authenticatorR)
            endedL.2.world.sent endedR.2.world.sent ∧
          left.describe = right.describe ∧
          authenticatorL.credentials.describe = authenticatorR.credentials.describe := by
  intro left right script calls
  have differ : left.DifferInSecrets right := ⟨.zia _ _ (by decide) (by decide), rfl⟩
  exact ⟨differ, serveAll_hides_secrets differ script (fun _ => 0) calls none 0⟩

end CloudAdmin
