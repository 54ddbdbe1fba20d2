import CloudAdmin.Proofs.Client.Economy
import CloudAdmin.Proofs.Session.StatedLifetime

/-!
# Tokens lapse for good

The time at which a token expires is a product, a sum and a margin of words, none of which may come
out too small because it does not fit. Main statement: a token whose answer states its lifetime in
seconds expires after as many seconds, or at the last time that there is, and is fresh until a
minute before, in exact numbers. So a longer lifetime or an earlier clock never makes a token less
fresh, and a session whose clock does not go back has done with a token once it logs in instead of
using it: whatever is asked of its client next, and in whatever order calls that share the session
take their steps, it logs in again as long as it keeps that token.
-/

namespace CloudAdmin

namespace Authenticator

/-- Whether a lifetime is written as a whole number of seconds, as a number or as a text. -/
inductive StatesSeconds : Json.Value → UInt64 → Prop where
  | number {numeral : Json.Numeral} {number : Json.Number} {seconds : UInt64}
      (denotes : numeral.value? = some number) (isWord : numeral.IsWord)
      (counts : Text.digitsValue numeral.whole = seconds.toNat) :
      StatesSeconds (.number number) seconds
  | text {text : String} {digits : List Char} {seconds : UInt64}
      (written : text.toList = digits ∨ text.toList = '+' :: digits) (notEmpty : digits ≠ [])
      (allDigits : ∀ c ∈ digits, c.isDigit = true)
      (counts : Text.digitsValue digits = seconds.toNat) : StatesSeconds (.string text) seconds

/-- Whether an answer to a flow grants a token for a number of seconds. -/
inductive GrantsFor (response : Http.Response) (flow : LoginFlow) (value : String)
    (seconds : UInt64) : Prop where
  | intro {name : String} {found : Json.Found} {stated : Json.Value}
      (success : 200 ≤ response.status ∧ response.status < 300)
      (told : tokenBody? flow = some (.bearer name))
      (isOfShape : Json.IsOfShape (tokenShape name) (Json.scan response.body) found)
      (holds : Assoc.find? name found = some (.string value))
      (written : Assoc.find? "expires_in" found = some stated)
      (states : StatesSeconds stated seconds)

variable {authenticator : Authenticator} {response : Http.Response} {start : UInt64}
  {value : String} {stated : Json.Value} {seconds : UInt64}

/-- A lifetime is the exact number of milliseconds, or the greatest one. -/
theorem StatesSeconds.toNat_lifetime (states : StatesSeconds stated seconds) :
    (lifetime (some stated)).toNat = min (1000 * seconds.toNat) Saturating.greatest.toNat := by
  cases states with
  | number denotes isWord counts =>
      rw [Authenticator.toNat_lifetime denotes, secondsOf, if_pos isWord, counts]
  | text written notEmpty allDigits counts =>
      have thousand : (1000 : UInt64).toNat = 1000 := rfl
      rw [lifetime, Text.toWord64?_of_digits written notEmpty allDigits counts, lifetime.statedOr,
        Saturating.toNat_mul, thousand, Nat.mul_comm]

theorem StatesSeconds.optional? {found : Json.Found} {name : String}
    (states : StatesSeconds stated seconds) (written : Assoc.find? name found = some stated) :
    found.optional? name = some stated := by
  cases states with
  | number denotes isWord counts => simp [Json.Found.optional?, written]
  | text readable notEmpty allDigits counts => simp [Json.Found.optional?, written]

/-- When a token expires that is granted for a number of seconds. -/
theorem GrantsFor.readLogin
    (grants : GrantsFor response authenticator.credentials.flow value seconds) (start : UInt64) :
    ∃ expiresAt, authenticator.readLogin response start = .ok ⟨value, .bearer, expiresAt⟩ ∧
      expiresAt.toNat = min (start.toNat + 1000 * seconds.toNat) Saturating.greatest.toNat := by
  rcases grants with ⟨success, told, isOfShape, holds, written, states⟩
  have isSuccess : response.isSuccess = true := by
    simpa [Http.Response.isSuccess] using success
  refine ⟨_, readLogin_of_bearer isSuccess told isOfShape holds, ?_⟩
  rw [states.optional? written, Saturating.toNat_add, states.toNat_lifetime]
  omega

end Authenticator

/-- An earlier clock never makes a token less fresh. -/
theorem Token.isFresh_of_le {token : Token} {earlier later : UInt64} (order : earlier ≤ later)
    (fresh : token.isFresh later = true) : token.isFresh earlier = true := by
  rw [Token.isFresh_iff] at *
  have inOrder : earlier.toNat ≤ later.toNat := order
  omega

/-- A token that expires later is no less fresh. -/
theorem Token.isFresh_of_expiresAt_le {token other : Token} {clock : UInt64}
    (order : token.expiresAt ≤ other.expiresAt) (fresh : token.isFresh clock = true) :
    other.isFresh clock = true := by
  rw [Token.isFresh_iff] at *
  have inOrder : token.expiresAt.toNat ≤ other.expiresAt.toNat := order
  omega

/-- What the clock of a session shows next. -/
def Host.time {World : Type} (host : Host World) (world : World) : UInt64 :=
  (host.sessionClock world).1

/-- Whether the clock of a session never goes back, whatever is done with the world. -/
structure Host.NeverGoesBack {World : Type} (host : Host World) : Prop where
  reading : ∀ world, host.time world ≤ host.time (host.sessionClock world).2
  wallClock : ∀ world, host.time world ≤ host.time (host.wallClock world).2
  sending : ∀ request world, host.time world ≤ host.time (host.send request world).2

theorem Transport.neverGoesBack_host {clock : Nat → UInt64} (transport : Transport)
    (ascending : ∀ reading, clock reading ≤ clock (reading + 1)) :
    (transport.host clock).NeverGoesBack where
  reading traffic := ascending traffic.readings
  wallClock traffic := ascending traffic.readings
  sending _ _ := UInt64.le_refl _

section Sessions

variable {World : Type}

namespace Session

/-- Whether a session uses a token that it keeps, and does nothing but read its clock. -/
def Reuses (session : Session World) (token : Token) (state : SessionState World) : Prop :=
  session.token.perform state = (.ok token, ⟨some token, (session.host.sessionClock state.world).2⟩)

/-- Whether a session logs in to obtain a token. -/
def LogsIn (session : Session World) (state : SessionState World) : Prop :=
  session.token.perform state =
    (session.login (session.host.time state.world)).perform
      { state with world := (session.host.sessionClock state.world).2 }

/-- The states that the uses of a session lead to. Nothing comes between what one of them does. -/
inductive Leads (session : Session World) (start : SessionState World) :
    SessionState World → Prop where
  | start : Leads session start start
  | token {state : SessionState World} (leads : Leads session start state) :
      Leads session start (session.token.perform state).2
  | send {state : SessionState World} (leads : Leads session start state)
      (request : Http.Request) : Leads session start ((session.send request).perform state).2
  | readTime {state : SessionState World} (leads : Leads session start state) :
      Leads session start ((Action.onWorld session.host.wallClock).perform state).2
  | forget {state : SessionState World} (leads : Leads session start state) :
      Leads session start (Session.invalidate.perform state).2

variable {session : Session World} {start state : SessionState World} {token : Token}

theorem reuses_of_isFresh (kept : state.token = some token)
    (fresh : token.isFresh (session.host.time state.world) = true) :
    session.Reuses token state := by
  have reused : (some token).filter (·.isFresh (session.host.sessionClock state.world).1) =
      some token := Option.filter_eq_some_iff.mpr ⟨rfl, fresh⟩
  rw [Reuses, perform_token]
  simp only [kept, reused]

theorem logsIn_of_not_isFresh (kept : state.token = some token)
    (stale : token.isFresh (session.host.time state.world) = false) : session.LogsIn state := by
  have notReused : token.isFresh (session.host.sessionClock state.world).1 = false := stale
  apply perform_token_of_stale
  simp [kept, Option.filter_some, notReused]

/-- To obtain a token the clock is read, and at most one request is sent after that. -/
theorem world_perform_token (session : Session World) (state : SessionState World) :
    let read := (session.host.sessionClock state.world).2
    (session.token.perform state).2.world = read ∨
      ∃ login, (session.token.perform state).2.world = (session.host.send login read).2 := by
  intro read
  rw [perform_token]
  dsimp only
  split
  · exact .inl rfl
  · rw [perform_login]
    cases session.authenticator.loginRequest (session.host.sessionClock state.world).1 with
    | error error => exact .inl rfl
    | ok login =>
        refine .inr ⟨login, ?_⟩
        dsimp only
        split
        · rfl
        · split <;> rfl

namespace Leads

/-- While a session is used its clock does not go back. -/
theorem time_le (goesOn : session.host.NeverGoesBack) (leads : session.Leads start state) :
    session.host.time start.world ≤ session.host.time state.world := by
  induction leads with
  | start => exact UInt64.le_refl _
  | @token state leads ih =>
      have read := UInt64.le_trans ih (goesOn.reading state.world)
      rcases session.world_perform_token state with same | ⟨login, sent⟩
      · rw [same]
        exact read
      · rw [sent]
        exact UInt64.le_trans read (goesOn.sending login _)
  | send leads request ih => exact UInt64.le_trans ih (goesOn.sending request _)
  | readTime leads ih => exact UInt64.le_trans ih (goesOn.wallClock _)
  | forget leads ih => exact ih

/-- A token that is kept and no longer used is never used again. -/
theorem logsIn (goesOn : session.host.NeverGoesBack) (leads : session.Leads start state)
    (stale : token.isFresh (session.host.time start.world) = false)
    (kept : state.token = some token) : session.LogsIn state := by
  apply logsIn_of_not_isFresh kept
  rw [← Bool.not_eq_true] at stale ⊢
  intro fresh
  exact stale (Token.isFresh_of_le (leads.time_le goesOn) fresh)

theorem logout (leads : session.Leads start state) :
    session.Leads start (session.logout.perform state).2 := by
  rw [perform_logout]
  split
  · exact leads.forget
  · rename_i request built
    dsimp only
    split
    · exact leads.forget.send request
    · exact leads.forget.send request

end Leads

end Session

variable {client : Client World} {start state : SessionState World}

namespace Session.Leads

theorem advance (leads : client.session.Leads start state) (caller : Caller) :
    client.session.Leads start (client.advance caller state).2 := by
  rcases caller with ⟨request, stage⟩
  cases stage with
  | seeking again =>
      have obtained := leads.token
      rcases asked : client.session.token.perform state with ⟨_ | _, after⟩ <;>
        simpa [Client.advance, asked] using obtained
  | holding again token =>
      have sent := leads.send (token.authorize request)
      rcases answered : (client.session.send (token.authorize request)).perform state
        with ⟨_ | response, after⟩
      · simpa [Client.advance, answered] using sent
      · rw [answered] at sent
        simp only [Client.advance, answered]
        split <;> exact sent
  | refused token => exact leads.forget
  | done result => exact leads

theorem run {crowd : Crowd World} (leads : client.session.Leads start crowd.state)
    (schedule : List Nat) : client.session.Leads start (crowd.run client schedule).state := by
  induction schedule generalizing crowd with
  | nil => exact leads
  | cons index rest ih =>
      apply ih
      unfold Crowd.step
      split
      · exact leads
      · exact leads.advance _

theorem execute (leads : client.session.Leads start state) (request : Http.Request) :
    client.session.Leads start ((client.execute request).perform state).2 := by
  rw [← (Crowd.run_alone client request state).2]
  exact run leads _

theorem serve (leads : client.session.Leads start state) (call : ClientCall) :
    client.session.Leads start ((client.serve call).perform state).2 := by
  cases call with
  | service call =>
      rw [Client.perform_serve_service]
      exact client.run_keeps (fun request _ leads => leads.execute request)
        (fun _ leads => leads.readTime) call leads
  | execute request =>
      rw [Client.perform_serve_execute]
      exact leads.execute request
  | logout =>
      rw [Client.perform_serve_logout]
      exact leads.logout

end Session.Leads

end Sessions

/-- A token that is granted for a number of seconds expires after as many, or at the last time there
is if that is earlier; granted for longer it is fresh at least as long. Every token, of whichever
flow, is fresh exactly until a minute before it expires, so it was fresh at every earlier time. A
session uses the token it keeps as long as that is fresh. When it no longer is, and the clock of the
session does not go back, then the session logs in, and does so in every later state in which it
keeps this token. The later states are those after any calls of its client, and after any steps of
calls that share the session. -/
theorem Authenticator.granted_tokens_lapse_for_good (authenticator : Authenticator)
    (response : Http.Response) (start : UInt64) (value : String) (seconds : UInt64)
    (grants : GrantsFor response authenticator.credentials.flow value seconds) :
    (∃ expiresAt : UInt64,
      authenticator.readLogin response start = .ok ⟨value, .bearer, expiresAt⟩ ∧
      expiresAt.toNat = min (start.toNat + 1000 * seconds.toNat) (2 ^ 64 - 1) ∧
      ∀ other longer more, GrantsFor other authenticator.credentials.flow longer more →
        seconds ≤ more → ∃ latest,
          authenticator.readLogin other start = .ok ⟨longer, .bearer, latest⟩ ∧
            ∀ now, Token.isFresh now ⟨value, .bearer, expiresAt⟩ = true →
              Token.isFresh now ⟨longer, .bearer, latest⟩ = true) ∧
    ∀ token : Token,
      (∀ now, token.isFresh now = true ↔ now.toNat + 60000 < token.expiresAt.toNat) ∧
      (∀ earlier later, earlier ≤ later → token.isFresh later = true →
        token.isFresh earlier = true) ∧
      ∀ (World : Type) (client : Client World) (state : SessionState World),
        let session := client.session
        let time := session.host.time
        (state.token = some token → token.isFresh (time state.world) = true →
          session.Reuses token state) ∧
        (session.host.NeverGoesBack → state.token = some token →
          token.isFresh (time state.world) = false →
          ∀ later, session.Leads state later → later.token = some token → session.LogsIn later) ∧
        ∀ later, session.Leads state later →
          (∀ call, session.Leads state ((client.serve call).perform later).2) ∧
          ∀ callers drops schedule,
            session.Leads state (Crowd.run client schedule ⟨callers, later, drops⟩).state := by
  refine ⟨?_, fun token => ⟨fun now => Token.isFresh_iff,
    fun earlier later => Token.isFresh_of_le, ?_⟩⟩
  · rcases grants.readLogin start with ⟨expiresAt, read, expiry⟩
    refine ⟨expiresAt, read, expiry, ?_⟩
    intro other longer more grantsMore order
    rcases grantsMore.readLogin start with ⟨latest, readOther, expiryOther⟩
    have inOrder : seconds.toNat ≤ more.toNat := order
    have noEarlier : expiresAt ≤ latest := by
      rw [UInt64.le_iff_toNat_le]
      omega
    exact ⟨latest, readOther, fun now => Token.isFresh_of_expiresAt_le noEarlier⟩
  · intro World client state session time
    refine ⟨Session.reuses_of_isFresh, ?_, ?_⟩
    · intro goesOn kept stale later leads keptLater
      exact leads.logsIn goesOn stale keptLater
    · intro later leads
      exact ⟨leads.serve, fun callers drops schedule => Session.Leads.run leads schedule⟩

namespace Authenticator

/-- An answer that grants as many seconds as a word can count. -/
def lavishAnswer : Http.Response :=
  statingAnswer "18446744073709551615"

theorem lavishAnswer_grants :
    GrantsFor lavishAnswer .oneApi "tok" 18446744073709551615 := by
  have states : StatesLifetime lavishAnswer .oneApi "tok"
      ⟨false, "18446744073709551615".toList, none, none⟩ := statesLifetime_of_scan rfl rfl
  cases states with
  | intro told isOfShape holds stated denotes =>
      exact .intro (by decide) told isOfShape holds stated
        (.number denotes ⟨rfl, rfl, rfl, by decide⟩ rfl)

/-- A clock that goes on, from a minute before the last time there is. -/
def lastMinute (reading : Nat) : UInt64 :=
  Saturating.ofNat (18446744073709491615 + reading)

theorem lastMinute_le (reading : Nat) : lastMinute reading ≤ lastMinute (reading + 1) := by
  rw [lastMinute, lastMinute, UInt64.le_iff_toNat_le, Saturating.toNat_ofNat,
    Saturating.toNat_ofNat]
  omega

/-- A token that is granted for longer than time lasts is given up a minute before the last time
there is. A session that was then refused a new one asks for one again. -/
theorem granted_tokens_lapse_for_good_at_the_end :
    let token : Token := ⟨"tok", .bearer, 18446744073709551615⟩
    let silent : Transport := fun _ => .error .noSessionCookie
    let client : Client Traffic := ⟨⟨silent.host lastMinute, gatewayCustomer⟩,
      .ownHost .zcc "http://127.0.0.1" none, 1⟩
    let start : SessionState Traffic := ⟨some token, ⟨[], 0⟩⟩
    let later := ((client.serve (.execute (.read "http://127.0.0.1/a"))).perform start).2
    gatewayCustomer.readLogin lavishAnswer 1000 = .ok token ∧
      later.token = some token ∧ later.world.sent.length = 1 ∧
      (client.session.token.perform later).2.world.sent.length = 2 := by
  intro token silent client start later
  rcases granted_tokens_lapse_for_good gatewayCustomer lavishAnswer 1000 "tok" 18446744073709551615
    lavishAnswer_grants with ⟨⟨expiresAt, read, expiry, -⟩, lapses⟩
  have last : expiresAt = 18446744073709551615 := by
    rw [← UInt64.toNat_inj, expiry]
    decide
  subst last
  rcases (lapses token).2.2 Traffic client start with ⟨-, logsIn, reaches⟩
  have goesOn : client.session.host.NeverGoesBack := silent.neverGoesBack_host lastMinute_le
  have kept : later.token = some token := by decide +kernel
  have again : client.session.LogsIn later :=
    logsIn goesOn rfl (by decide +kernel) later ((reaches start .start).1 _) kept
  refine ⟨read, kept, by decide +kernel, ?_⟩
  rw [again]
  decide +kernel

end Authenticator

end CloudAdmin
