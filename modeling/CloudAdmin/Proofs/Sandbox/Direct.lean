import CloudAdmin.Proofs.Result
import CloudAdmin.Proofs.Sandbox.Reaching
import CloudAdmin.Proofs.Url.Origin

/-!
# Sandboxes at hand

A client may be led straight to a sandbox, with clocks that stand still. Nobody takes tokens back
then, so the sandbox is reached as soon as it accepts the client. The customer and the supply of
tokens at the end are those of a sandbox on this machine.
-/

namespace CloudAdmin.Sandbox

/-- The host that leads straight to a sandbox. -/
def direct (supply : TokenSupply) (now wall : UInt64) : Host State where
  sessionClock state := (now, state)
  wallClock state := (wall, state)
  send := send supply

theorem reaches_direct {supply : TokenSupply} {authenticator : Authenticator} {now : UInt64}
    (issues : ∀ login, IsTokenText (supply login)) (accepts : Accepts supply authenticator now)
    (wall : UInt64) : Reaches supply authenticator (direct supply now wall) id where
  issues := issues
  accepts _ := accepts
  keeps _ := rfl
  passes _ _ := .inl ⟨rfl, rfl⟩
  spares _ _ _ _ _ _ _ _ _ _ := fun _ => ⟨rfl, rfl⟩

/-- A supply that counts: its tokens have the length that tokens have. -/
def countingSupply : TokenSupply :=
  fun login => String.ofList (Text.paddedDecimal 32 login)

theorem isTokenText_countingSupply (login : Nat) : IsTokenText (countingSupply login) := by
  have digits : ∀ c ∈ Text.paddedDecimal 32 login, c.isDigit = true := by
    intro c member
    rcases List.mem_append.mp member with padding | digit
    · rcases (List.mem_replicate.mp padding).2 with rfl
      rfl
    · exact Text.isDigit_of_mem_toDigits digit
  refine ⟨?_, fun c member => ?_⟩
  · intro empty
    have none : Text.paddedDecimal 32 login = [] := by
      simpa [countingSupply] using congrArg String.toList empty
    exact Nat.toDigits_ne_nil (List.append_eq_nil_iff.mp none).2
  · have digit := digits c (by simpa [countingSupply] using member)
    simp only [Char.isDigit, Bool.and_eq_true, decide_eq_true_eq, ge_iff_le,
      UInt32.le_iff_toNat_le] at digit
    have range : 48 ≤ c.toNat ∧ c.toNat ≤ 57 := digit
    refine ⟨by omega, by omega, ?_⟩
    rintro rfl
    revert range
    decide

/-- The root of a server on this machine. -/
theorem isOrigin_local : Url.IsOrigin (Text.dropTrailing '/' "http://127.0.0.1:3000") := by
  have parsed : (Url.parse (Text.dropTrailing '/' "http://127.0.0.1:3000" ++ "/")).toOption =
      some ⟨"http".toList, some ⟨[], .ipv4 0x7F000001, some 3000⟩, .segments [[]], none, none⟩ := by
    decide +kernel
  exact ⟨_, eq_ok_of_toOption parsed, by decide, rfl, rfl, rfl⟩

/-- The customer of a sandbox on this machine. -/
def localCustomer : Authenticator :=
  ⟨.oneApi clientId clientSecret, "http://127.0.0.1:3000"⟩

/-- The login of a customer to the gateway, as a sandbox sees it. -/
def gatewayEntry : Request :=
  ⟨"POST", "/oauth2/v1/token", [], [("content-type", Http.formType)],
    "grant_type=client_credentials&client_id=test-client&client_secret=test-secret"⟩

theorem accepts_localCustomer : Accepts countingSupply localCustomer 0 where
  pointed := by
    have parsed : (Url.parse localCustomer.loginUrl).toOption =
        some ⟨"http".toList, some ⟨[], .ipv4 0x7F000001, some 3000⟩,
          .segments ["oauth2".toList, "v1".toList, "token".toList], none, none⟩ := by
      decide +kernel
    exact ⟨_, eq_ok_of_toOption parsed, by decide⟩
  welcomed := by
    have answered : ((localCustomer.loginRequest 0).toOption.bind fun login =>
        (send countingSupply login .empty).1.toOption).any (·.isSuccess) = true := by
      decide +kernel
    rcases (Option.any_eq_true ..).mp answered with ⟨response, found, success⟩
    rcases Option.bind_eq_some_iff.mp found with ⟨login, built, sent⟩
    exact ⟨login, response, _, eq_ok_of_toOption built, eq_ok_of_toOption sent, success⟩

end CloudAdmin.Sandbox
