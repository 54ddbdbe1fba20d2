import Mathlib.Data.List.Forall2
import CloudAdmin.ClientCall
import CloudAdmin.Proofs.Client.Replay
import CloudAdmin.Proofs.Services.Location
import CloudAdmin.Proofs.Session.LoginRequest
import CloudAdmin.Proofs.Settings.Resolving

/-!
# Where requests go

A token is a credential, and so is what a login holds, so neither may reach a host that the settings
do not name. Main statement: whatever is asked of a client and whatever it is answered, each request
that it sends either begins or ends its session at the login URL or is for what the product that was
called serves below its base. If one root takes the place of all usual ones, everything is below it.
-/

namespace CloudAdmin

/-- Whether a product serves a URL below its base. ZPA serves two interfaces there and nothing
else. -/
def Product.Serves (base url : String) : Product → Prop
  | .zpa => ∃ path, url = base ++ "/mgmtconfig/" ++ path ∨ url = base ++ "/userconfig/" ++ path
  | _ => IsWithin base url

theorem Scope.serves {scope : Scope} {product : Product} {base url : String}
    (isOf : scope.isOf product = true) (within : IsWithin (base ++ scope.interface) url) :
    scope.owner = product ∧ product.Serves base url := by
  cases scope with
  | product service =>
      simp only [Scope.isOf, Bool.and_eq_true, beq_iff_eq, bne_iff_ne] at isOf
      rcases isOf with ⟨rfl, notZpa⟩
      rw [interface, String.append_empty] at within
      refine ⟨rfl, ?_⟩
      cases service with
      | zpa => exact absurd rfl notZpa
      | _ => exact within
  | management version =>
      obtain rfl : product = .zpa := by simpa [Scope.isOf] using isOf
      rcases within.exists_rest with ⟨rest, rfl⟩
      refine ⟨rfl, version ++ "/admin/customers" ++ rest, .inl ?_⟩
      simp only [interface, String.append_assoc]
  | userConfiguration =>
      obtain rfl : product = .zpa := by simpa [Scope.isOf] using isOf
      rcases within.exists_rest with ⟨rest, rfl⟩
      refine ⟨rfl, "v1/customers" ++ rest, .inr ?_⟩
      apply String.toList_inj.mp
      simp [interface]

namespace ClientCall

/-- Whether something is among what the products offer, or the end of the session. -/
def IsOffered : ClientCall → Prop
  | .service call => ∃ product : Product, product.Offers call
  | .execute _ => False
  | .logout => True

/-- The requests that may be sent for the sake of a call: a login without any token, the end of the
session if that was asked for, and requests for what the product that was called serves. -/
inductive MaySend (authenticator : Authenticator) (routes : Routes) :
    ClientCall → Http.Request → Prop where
  | login {call : ClientCall} {request : Http.Request} {now : UInt64}
      (built : authenticator.loginRequest now = .ok request)
      (address : request.url = authenticator.loginUrl)
      (noToken : ∀ token : Token, request.headers.values token.header.1 = []) :
      MaySend authenticator routes call request
  | logout {request : Http.Request} {token : Token}
      (ends : authenticator.logoutRequest? token = some request)
      (address : request.url = authenticator.loginUrl) :
      MaySend authenticator routes .logout request
  | served {call : ServiceCall} {request : Http.Request} {product : Product} {base : String}
      (offers : product.Offers call) (isBase : routes.base product = .ok base)
      (serves : product.Serves base request.url) :
      MaySend authenticator routes (.service call) request

end ClientCall

section Sending

variable {authenticator : Authenticator} {transport : Transport} {clock : Nat → UInt64}
  {routes : Routes} {earlier : List Http.Request} {may : Http.Request → Prop}

/-- Whether two states are the same and some requests that may be sent have been. -/
def HaveSent (earlier : List Http.Request) (may : Http.Request → Prop)
    (stateL stateR : SessionState Traffic) : Prop :=
  stateL = stateR ∧
    ∃ sent, stateL.world.sent = earlier ++ sent ∧ ∀ request ∈ sent, may request

/-- A client that may log in and may make a request with any token sends nothing else. -/
theorem Client.execute_haveSent (client : Client Traffic)
    (session : client.session = ⟨transport.host clock, authenticator⟩) {request : Http.Request}
    (logins : ∀ now login, authenticator.loginRequest now = .ok login → may login)
    (authorized : ∀ token : Token, may (token.authorize request)) :
    Action.Agree (HaveSent earlier may) (client.execute request) (client.execute request) := by
  rintro ⟨kept, ⟨before, readings⟩⟩ _ ⟨rfl, sent, split, allowed⟩
  rcases exists_course authenticator transport kept (clock readings) (clock (readings + 1)) before
    request with ⟨more, result, after, course⟩
  rcases course.perform_execute client session with ⟨later, performed⟩
  rw [performed]
  refine ⟨rfl, rfl, sent ++ more, ?_, ?_⟩
  · simp only at split ⊢
    rw [split, List.append_assoc]
  · intro other member
    rcases List.mem_append.mp member with old | new
    · exact allowed other old
    · rcases course.mem_sent new with ⟨time, built⟩ | ⟨token, rfl⟩
      · exact logins time other built
      · exact authorized token

theorem Client.areCoupled_haveSent (client : Client Traffic)
    (session : client.session = ⟨transport.host clock, authenticator⟩)
    {targets : List (Http.Method × String)}
    (logins : ∀ now login, authenticator.loginRequest now = .ok login → may login)
    (authorized : ∀ (token : Token) (request : Http.Request), request.AimsAt targets →
      may (token.authorize request)) :
    AreCoupled (HaveSent earlier may) targets client client where
  sameRoutes := rfl
  samePages := rfl
  execute request aims := client.execute_haveSent session logins fun token =>
    authorized token request aims
  readTime := by
    rintro state _ ⟨rfl, sent, split, allowed⟩
    refine ⟨rfl, rfl, sent, ?_, allowed⟩
    rw [Action.perform_onWorld, session]
    exact split

theorem ClientCall.MaySend.ofLogin {call : ClientCall} {now : UInt64} {login : Http.Request}
    (built : authenticator.loginRequest now = .ok login) :
    call.MaySend authenticator routes login := by
  rcases Authenticator.exists_body_of_loginRequest built with ⟨body, rfl⟩
  exact .login built rfl fun token => token.values_contentType _

/-- One call sends nothing but what may be sent for its sake. -/
theorem Client.serve_sends (authenticator : Authenticator) (transport : Transport)
    (clock : Nat → UInt64) (trimmed : HasNoTrailingSlash routes.root) (maxPages : Nat)
    {call : ClientCall} (offered : call.IsOffered) (kept : Option Token)
    (earlier : List Http.Request) (readings : Nat) :
    let client : Client Traffic := ⟨⟨transport.host clock, authenticator⟩, routes, maxPages⟩
    let ended := (client.serve call).perform ⟨kept, ⟨earlier, readings⟩⟩
    ∃ sent, ended.2.world.sent = earlier ++ sent ∧
      ∀ request ∈ sent, call.MaySend authenticator routes request := by
  intro client ended
  cases call with
  | service call =>
      rcases offered with ⟨product, offers⟩
      -- The client is coupled with itself: what each of its requests preserves, the call does.
      have coupled : client.AreCoupled (HaveSent earlier ((ClientCall.service call).MaySend
          authenticator routes)) (call.targets routes) client := by
        refine client.areCoupled_haveSent rfl (fun _ _ built => .ofLogin built) ?_
        intro token request aims
        rcases ServiceCall.exists_base_of_mem_targets trimmed aims.isTarget
          with ⟨base, isBase, within⟩
        rcases Scope.serves offers.isOf within with ⟨rfl, serves⟩
        exact .served offers isBase serves
      have agree := (coupled.run call (List.Subset.refl _)).bind fun answer _ =>
        Action.Agree.pure (ClientAnswer.answer answer)
      exact (agree ⟨kept, ⟨earlier, readings⟩⟩ _ ⟨rfl, [], by simp, by simp⟩).2.2
  | execute request => exact offered.elim
  | logout =>
      have performed : ended.2 = (client.logout.perform ⟨kept, ⟨earlier, readings⟩⟩).2 := by
        simp only [ended, serve, Action.perform_bind]
        rcases client.logout.perform _ with ⟨_ | _, _⟩ <;> rfl
      rw [performed, logout, Session.perform_logout]
      cases ends : kept.bind fun token => authenticator.logoutRequest? token with
      | none => exact ⟨[], by simp, by simp⟩
      | some request =>
          rcases Option.bind_eq_some_iff.mp ends with ⟨token, -, isLogout⟩
          refine ⟨[request], ?_, ?_⟩
          · simp only [client, Transport.host]
            cases transport (earlier ++ [request]) <;> rfl
          · intro other member
            rcases List.mem_singleton.mp member with rfl
            refine .logout isLogout ?_
            rw [Authenticator.eq_of_logoutRequest? isLogout]
            rfl

theorem Client.serveAll_sends (authenticator : Authenticator) (transport : Transport)
    (clock : Nat → UInt64) (trimmed : HasNoTrailingSlash routes.root) (maxPages : Nat)
    {calls : List ClientCall} (offered : ∀ call ∈ calls, call.IsOffered)
    (state : SessionState Traffic) :
    let client : Client Traffic := ⟨⟨transport.host clock, authenticator⟩, routes, maxPages⟩
    ∃ sent : List (List Http.Request),
      (client.serveAll calls state).2.world.sent = state.world.sent ++ sent.flatten ∧
        List.Forall₂ (fun call requests => ∀ request ∈ requests,
          ClientCall.MaySend authenticator routes call request) calls sent := by
  intro client
  induction calls generalizing state with
  | nil => exact ⟨[], by simp [serveAll], .nil⟩
  | cons call rest ih =>
      rcases serve_sends authenticator transport clock trimmed maxPages
        (offered call (List.mem_cons_self ..)) state.token state.world.sent state.world.readings
        with ⟨first, split, allowed⟩
      rcases ih (fun later member => offered later (List.mem_cons_of_mem _ member))
        ((client.serve call).perform state).2 with ⟨others, splitRest, allowedRest⟩
      refine ⟨first :: others, ?_, .cons allowed allowedRest⟩
      rw [List.flatten_cons, ← List.append_assoc, ← split]
      exact splitRest

end Sending

section Roots

theorem Routes.exists_path_of_base {routes : Routes} {product : Product} {base : String}
    (found : routes.base product = .ok base) : ∃ path, base = routes.root ++ path := by
  unfold Routes.base at found
  split at found
  · exact ⟨_, (Except.ok.inj found).symm⟩
  · split at found
    · exact ⟨_, (Except.ok.inj found).symm⟩
    · cases found

theorem Product.Serves.exists_rest {product : Product} {base url : String}
    (serves : product.Serves base url) : ∃ rest, url = base ++ rest := by
  cases product with
  | zpa =>
      rcases serves with ⟨path, rfl | rfl⟩
      · exact ⟨"/mgmtconfig/" ++ path, String.append_assoc⟩
      · exact ⟨"/userconfig/" ++ path, String.append_assoc⟩
  | _ => exact IsWithin.exists_rest serves

/-- If everything has one root, every request that may be sent is below it. -/
theorem Settings.LeadTo.exists_rest {settings : Settings} {authenticator : Authenticator}
    {routes : Routes} (leads : settings.LeadTo authenticator routes) {root : String}
    (given : settings.baseUrl = some root) (noLogin : settings.loginUrl = none) {call : ClientCall}
    {request : Http.Request} (sends : call.MaySend authenticator routes request) :
    ∃ rest, request.url = Text.dropTrailing '/' root ++ rest := by
  have login : ∃ rest, authenticator.loginUrl = Text.dropTrailing '/' root ++ rest := by
    rw [Authenticator.loginUrl, leads.loginAt root given noLogin]
    exact ⟨_, rfl⟩
  cases sends with
  | login built address noToken => exact address ▸ login
  | logout ends address => exact address ▸ login
  | served offers isBase serves =>
      rcases Routes.exists_path_of_base isBase with ⟨path, rfl⟩
      rcases serves.exists_rest with ⟨rest, isUrl⟩
      rw [leads.rootedAt root given, String.append_assoc] at isUrl
      exact ⟨_, isUrl⟩

theorem Settings.LeadTo.exists_rest_of_mem {settings : Settings} {authenticator : Authenticator}
    {routes : Routes} (leads : settings.LeadTo authenticator routes) {root : String}
    (given : settings.baseUrl = some root) (noLogin : settings.loginUrl = none)
    {calls : List ClientCall} {sent : List (List Http.Request)}
    (allowed : List.Forall₂ (fun call requests => ∀ request ∈ requests,
      ClientCall.MaySend authenticator routes call request) calls sent)
    {request : Http.Request} (member : request ∈ sent.flatten) :
    ∃ rest, request.url = Text.dropTrailing '/' root ++ rest := by
  induction allowed with
  | nil => cases member
  | cons first _ ih =>
      rw [List.flatten_cons] at member
      rcases List.mem_append.mp member with inside | later
      · exact leads.exists_rest given noLogin (first request inside)
      · exact ih later

end Roots

/-- Whatever is asked of a client among what the products offer, in whatever order, and whatever it
is answered, it sends nothing but what may be sent for the sake of each call. If one root takes the
place of all usual ones, everything that is sent begins with it. -/
theorem Client.serveAll_stays_home (settings : Settings) (transport : Transport)
    (clock : Nat → UInt64) (calls : List ClientCall) (offered : ∀ call ∈ calls, call.IsOffered)
    (kept : Option Token) (earlier : List Http.Request) (readings : Nat) :
    ∃ authenticator routes, settings.resolve = .ok (authenticator, routes) ∧
      let client : Client Traffic :=
        ⟨⟨transport.host clock, authenticator⟩, routes, settings.maxPages.toNat⟩
      ∃ sent : List (List Http.Request),
        (client.serveAll calls ⟨kept, ⟨earlier, readings⟩⟩).2.world.sent =
            earlier ++ sent.flatten ∧
          List.Forall₂ (fun call requests => ∀ request ∈ requests,
            ClientCall.MaySend authenticator routes call request) calls sent ∧
          ∀ root, settings.baseUrl = some root → settings.loginUrl = none →
            ∀ request ∈ sent.flatten, ∃ rest, request.url = Text.dropTrailing '/' root ++ rest := by
  rcases settings.exists_leadTo with ⟨authenticator, routes, leads⟩
  refine ⟨authenticator, routes, leads.resolved, ?_⟩
  rcases serveAll_sends authenticator transport clock leads.trimmed settings.maxPages.toNat offered
    ⟨kept, ⟨earlier, readings⟩⟩ with ⟨sent, split, allowed⟩
  refine ⟨sent, split, allowed, ?_⟩
  intro root given noLogin request member
  exact leads.exists_rest_of_mem given noLogin allowed member

def localSettings : Settings :=
  (Settings.ofLogin (.oneApi "client" ⟨"secret"⟩ "acme" "production" (some "42"))).withBaseUrl
    "http://127.0.0.1:3000/"

/-- A rule whose ids look like paths is read, a list is read in pages, and the session is ended. -/
def ruleAndLocations (arguments : Arguments) : List ClientCall :=
  [.service (.get (Zpa.policyRules "../..") "//example.org"),
    .service (.list (Zia.paged "locations") arguments.query), .logout]

theorem ruleAndLocations_areOffered (arguments : Arguments) :
    ∀ call ∈ ruleAndLocations arguments, call.IsOffered := by
  intro call member
  have isRule : Product.Offers .zpa (.get (Zpa.policyRules "../..") "//example.org") :=
    @Product.Offers.policyRules "../.." .get (by decide) { arguments with id := "//example.org" }
  have isList : Product.Offers .zia (.list (Zia.paged "locations") arguments.query) :=
    @Product.Offers.listed .zia (Zia.listings.head (by decide)) .list (List.head_mem _) (by decide)
      arguments
  simp only [ruleAndLocations, List.mem_cons, List.not_mem_nil, or_false] at member
  rcases member with rfl | rfl | rfl
  · exact ⟨.zpa, isRule⟩
  · exact ⟨.zia, isList⟩
  · trivial

theorem Client.serveAll_stays_home_on_localhost :
    let calls := ruleAndLocations ⟨[("search", "office")], "", "", .empty⟩
    ∃ authenticator routes, localSettings.resolve = .ok (authenticator, routes) ∧
      let client : Client Traffic :=
        ⟨⟨Transport.host (fun _ => 0) fun _ => .ok ⟨200, [], "[]"⟩, authenticator⟩, routes,
          localSettings.maxPages.toNat⟩
      ∃ sent : List (List Http.Request),
        (client.serveAll calls ⟨none, ⟨[], 0⟩⟩).2.world.sent = [] ++ sent.flatten ∧
          List.Forall₂ (fun call requests => ∀ request ∈ requests,
            ClientCall.MaySend authenticator routes call request) calls sent ∧
          ∀ root, localSettings.baseUrl = some root → localSettings.loginUrl = none →
            ∀ request ∈ sent.flatten, ∃ rest, request.url = Text.dropTrailing '/' root ++ rest :=
  serveAll_stays_home localSettings _ (fun _ => 0) _ (ruleAndLocations_areOffered _) none [] 0

end CloudAdmin
