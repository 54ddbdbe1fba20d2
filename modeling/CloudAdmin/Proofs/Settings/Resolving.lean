import CloudAdmin.Proofs.Text.Splitting
import CloudAdmin.Settings.Basic

/-!
# What settings lead to

Settings always determine how a client logs in and what it reaches, because every flow has a host of
its own. A root that takes the place of the usual ones is the root of the routes, and of the login
as well unless that has yet another one.
-/

namespace CloudAdmin.Settings

/-- What the settings of a flow with a host of its own lead to. -/
theorem resolveOwn_eq {settings : Settings} {product : Product} {cloud own : String}
    (hasHost : Cloud.ownRoot product cloud = .ok own) (credentials : Credentials)
    (customerId : Option String) :
    settings.resolveOwn product cloud credentials customerId =
      .ok (.ofRoot (settings.loginUrl.getD (settings.baseUrl.getD own)) credentials,
        .ownHost product (settings.baseUrl.getD own) customerId) := by
  rw [resolveOwn, hasHost]
  cases settings.baseUrl <;> rfl

/-- Whether settings lead to an authenticator and to routes: the root of the routes does not end in
a slash, and a root that takes the place of the usual ones is the root of everything. -/
structure LeadTo (settings : Settings) (authenticator : Authenticator) (routes : Routes) :
    Prop where
  resolved : settings.resolve = .ok (authenticator, routes)
  trimmed : HasNoTrailingSlash routes.root
  rootedAt : ∀ root, settings.baseUrl = some root → routes.root = Text.dropTrailing '/' root
  loginAt : ∀ root, settings.baseUrl = some root → settings.loginUrl = none →
    authenticator.root = Text.dropTrailing '/' root

theorem leadTo_of_resolveOwn {settings : Settings} {product : Product} {cloud own : String}
    {credentials : Credentials} {customerId : Option String}
    (hasHost : Cloud.ownRoot product cloud = .ok own)
    (resolves : settings.resolve = settings.resolveOwn product cloud credentials customerId) :
    settings.LeadTo (.ofRoot (settings.loginUrl.getD (settings.baseUrl.getD own)) credentials)
      (.ownHost product (settings.baseUrl.getD own) customerId) where
  resolved := resolves.trans (resolveOwn_eq hasHost credentials customerId)
  trimmed := hasNoTrailingSlash_dropTrailing _
  rootedAt root given := by
    rw [given]
    rfl
  loginAt root given noLogin := by
    rw [given, noLogin]
    rfl

/-- Settings always lead somewhere. -/
theorem exists_leadTo (settings : Settings) :
    ∃ authenticator routes, settings.LeadTo authenticator routes := by
  rcases settings with ⟨login, timeout, baseUrl, loginUrl, maxPages, maxResponseBytes⟩
  cases login with
  | oneApi clientId clientSecret vanityDomain cloud customerId =>
      refine ⟨_, _, rfl, hasNoTrailingSlash_dropTrailing _, ?_, ?_⟩
      · rintro root ⟨⟩
        rfl
      · rintro root ⟨⟩ ⟨⟩
        rfl
  | zia | zpa | zcc | zdx => exact ⟨_, _, leadTo_of_resolveOwn rfl rfl⟩

end CloudAdmin.Settings
