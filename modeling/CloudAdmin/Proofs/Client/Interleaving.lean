import CloudAdmin.Proofs.Client.Replay
import CloudAdmin.Proofs.Result
import CloudAdmin.Proofs.Session.LoginRequest

/-!
# Calls that share a session

Calls that are under way at the same time share one session. What each of them does is cut into
steps that nothing comes between: one use of the session, which may log in, or one request and its
answer. Between the step in which a token is refused and the step in which the kept one is
forgotten, another call may have logged in, and then it is the new token that is forgotten. Main
statement: whatever the interleaving, a single refused token costs one login and one more for each
new token that was forgotten in this way. Two calls are enough to see it happen.
-/

namespace CloudAdmin

/-- How far a call has got. -/
inductive Stage where
  /-- A token is needed, for the first time or again. -/
  | seeking (again : Bool)
  /-- There is a token to send the request with. -/
  | holding (again : Bool) (token : Token)
  /-- The token was refused, and the kept one is about to be forgotten. -/
  | refused (token : Token)
  | done (result : Except ApiError Http.Response)

structure Caller where
  request : Http.Request
  stage : Stage

/-- That a token was forgotten because some token had been refused. -/
structure Drop where
  refused : Token
  kept : Option Token

/-- Whether the token that was forgotten is not the one that had been refused. -/
def Drop.overtakes (drop : Drop) : Bool :=
  drop.kept.any (· != drop.refused)

/-- Calls that share a session, and which tokens they have made it forget. -/
structure Crowd (World : Type) where
  callers : List Caller
  state : SessionState World
  drops : List Drop

section Steps

variable {World : Type}

def Client.advance (client : Client World) (caller : Caller) (state : SessionState World) :
    Stage × SessionState World :=
  match caller.stage with
  | .seeking again =>
      match client.session.token.perform state with
      | (.ok token, after) => (.holding again token, after)
      | (.error error, after) => (.done (.error error), after)
  | .holding again token =>
      match (client.session.send (token.authorize caller.request)).perform state with
      | (.ok response, after) =>
          if response.status = 401 ∧ again = false then (.refused token, after)
          else (.done (.ok response), after)
      | (.error error, after) => (.done (.error error), after)
  | .refused _ => (.seeking true, (Session.invalidate.perform state).2)
  | .done result => (.done result, state)

/-- What the next step of a call makes the session forget. -/
def Stage.drop (kept : Option Token) : Stage → List Drop
  | .refused token => [⟨token, kept⟩]
  | .seeking _ | .holding _ _ | .done _ => []

namespace Crowd

/-- One step of the call at some index. -/
def step (client : Client World) (crowd : Crowd World) (index : Nat) : Crowd World :=
  match crowd.callers[index]? with
  | none => crowd
  | some caller =>
      let (stage, state) := client.advance caller crowd.state
      ⟨crowd.callers.set index { caller with stage }, state,
        crowd.drops ++ caller.stage.drop crowd.state.token⟩

def run (client : Client World) (schedule : List Nat) (crowd : Crowd World) : Crowd World :=
  schedule.foldl (step client) crowd

end Crowd

/-- A call that is left alone takes five steps, and does what a call does. -/
theorem Crowd.run_alone (client : Client World) (request : Http.Request)
    (state : SessionState World) :
    let ended := (client.execute request).perform state
    let crowd := run client [0, 0, 0, 0, 0] ⟨[⟨request, .seeking false⟩], state, []⟩
    crowd.callers = [⟨request, .done ended.1⟩] ∧ crowd.state = ended.2 := by
  intro ended crowd
  have executed : ended = _ := Client.perform_execute request client state
  rw [Client.perform_sendAuthorized] at executed
  rcases first : client.session.token.perform state with ⟨_ | token, obtained⟩
  · simp only [first] at executed
    simp [crowd, run, step, Client.advance, first, executed]
  rcases answer : (client.session.send (token.authorize request)).perform obtained
    with ⟨_ | response, answered⟩
  · simp only [first, answer] at executed
    simp [crowd, run, step, Client.advance, first, answer, executed]
  simp only [first, answer] at executed
  -- A call that is not refused has ended after two steps, and the others are idle.
  by_cases isRefused : response.status = 401
  · rw [if_pos isRefused, Client.perform_sendAuthorized] at executed
    have forgets : (Session.invalidate.perform answered).2 = { answered with token := none } := rfl
    rcases second : client.session.token.perform { answered with token := none }
      with ⟨_ | renewed, obtainedAgain⟩
    · simp only [second] at executed
      simp [crowd, run, step, Client.advance, first, answer, isRefused, forgets, second, executed]
    rcases replay : (client.session.send (renewed.authorize request)).perform obtainedAgain
      with ⟨_ | last, final⟩
    · simp only [second, replay] at executed
      simp [crowd, run, step, Client.advance, first, answer, isRefused, forgets, second, replay,
        executed]
    · simp only [second, replay] at executed
      simp [crowd, run, step, Client.advance, first, answer, isRefused, forgets, second, replay,
        executed]
  · rw [if_neg isRefused] at executed
    simp [crowd, run, step, Client.advance, first, answer, isRefused, executed]

end Steps

section Logins

def tokenHeaders : List String :=
  ["authorization", "cookie", "auth-token"]

/-- Whether a request is a login: it is posted to the login URL and carries no token. -/
def Authenticator.isLogin (authenticator : Authenticator) (request : Http.Request) : Bool :=
  request.method == .post && request.url == authenticator.loginUrl &&
    tokenHeaders.all fun name => (request.headers.values name).isEmpty

theorem Authenticator.isLogin_of_loginRequest {authenticator : Authenticator} {now : UInt64}
    {login : Http.Request} (built : authenticator.loginRequest now = .ok login) :
    authenticator.isLogin login = true := by
  rcases exists_body_of_loginRequest built with ⟨body, rfl⟩
  have others : tokenHeaders.all (fun name => !Text.sameName "content-type" name) = true := by
    decide
  have none : tokenHeaders.all (fun name => (Http.Headers.values name
      [("content-type", loginType authenticator.credentials.flow)]).isEmpty) = true := by
    refine List.all_eq_true.mpr fun name member => ?_
    have other := List.all_eq_true.mp others name member
    simp only [Bool.not_eq_true'] at other
    simp [Http.Headers.values, other]
  simp [isLogin, loginWith, none]

theorem Token.header_mem (token : Token) : token.header.1 ∈ tokenHeaders := by
  rcases token with ⟨text, kind, expiresAt⟩
  cases kind <;> simp [header, tokenHeaders]

theorem Authenticator.isLogin_authorize (authenticator : Authenticator) (token : Token)
    (request : Http.Request) : authenticator.isLogin (token.authorize request) = false := by
  have carries : tokenHeaders.all
      (fun name => ((token.authorize request).headers.values name).isEmpty) = false := by
    refine List.all_eq_false.mpr ⟨token.header.1, token.header_mem, ?_⟩
    simp [(token.isCopyWith_authorize request).onlyHeader]
  simp [isLogin, carries]

end Logins

/-- Whether a server refuses no token but one, whose header no other token has. It answers every
login with a new token, and tokens do not expire. -/
structure Transport.RefusesOnly (transport : Transport) (authenticator : Authenticator)
    (clock : Nat → UInt64) (stale : Token) : Prop where
  fresh : ∀ reading, stale.isFresh (clock reading) = true
  logsIn : ∀ earlier reading, ∃ login response token,
    authenticator.loginRequest (clock reading) = .ok login ∧
      transport (earlier ++ [login]) = .ok response ∧
      authenticator.readLogin response (clock reading) = .ok token ∧
      token.header ≠ stale.header ∧ ∀ later, token.isFresh (clock later) = true
  accepts : ∀ earlier request response (token : Token), token.header ≠ stale.header →
    transport (earlier ++ [token.authorize request]) = .ok response → response.status ≠ 401

section Refusal

variable {authenticator : Authenticator} {transport : Transport} {clock : Nat → UInt64}
  {routes : Routes} {maxPages : Nat} {stale : Token}

/-- Whether a token may turn up: the one that is refused, or one with another header. All of them
are fresh. -/
structure IsKnown (clock : Nat → UInt64) (stale token : Token) : Prop where
  same : token.header = stale.header → token = stale
  fresh : ∀ reading, token.isFresh (clock reading) = true

/-- What one step may do to a call and to the session. -/
inductive Effect (authenticator : Authenticator) (clock : Nat → UInt64) (stale : Token) :
    Stage → SessionState Traffic → Stage → SessionState Traffic → Prop where
  | reused {again : Bool} {token : Token} {state : SessionState Traffic}
      (kept : state.token = some token) :
      Effect authenticator clock stale (.seeking again) state (.holding again token)
        { state with world := ⟨state.world.sent, state.world.readings + 1⟩ }
  | loggedIn {again : Bool} {token : Token} {login : Http.Request} {state : SessionState Traffic}
      (noneKept : state.token = none) (isLogin : authenticator.isLogin login = true)
      (different : token.header ≠ stale.header) (known : IsKnown clock stale token) :
      Effect authenticator clock stale (.seeking again) state (.holding again token)
        ⟨some token, ⟨state.world.sent ++ [login], state.world.readings + 1⟩⟩
  | refused {token : Token} {request : Http.Request} {state : SessionState Traffic}
      (noLogin : authenticator.isLogin request = false) (same : token.header = stale.header) :
      Effect authenticator clock stale (.holding false token) state (.refused token)
        { state with world := ⟨state.world.sent ++ [request], state.world.readings⟩ }
  | answered {again : Bool} {token : Token} {request : Http.Request}
      {result : Except ApiError Http.Response} {state : SessionState Traffic}
      (noLogin : authenticator.isLogin request = false) :
      Effect authenticator clock stale (.holding again token) state (.done result)
        { state with world := ⟨state.world.sent ++ [request], state.world.readings⟩ }
  | dropped {token : Token} {state : SessionState Traffic} :
      Effect authenticator clock stale (.refused token) state (.seeking true)
        { state with token := none }
  | idle {result : Except ApiError Http.Response} {state : SessionState Traffic} :
      Effect authenticator clock stale (.done result) state (.done result) state

/-- Every step has one of these effects. -/
theorem effect_advance (refuses : transport.RefusesOnly authenticator clock stale)
    (client : Client Traffic) (session : client.session = ⟨transport.host clock, authenticator⟩)
    (caller : Caller) (state : SessionState Traffic)
    (known : ∀ token, state.token = some token → IsKnown clock stale token) :
    Effect authenticator clock stale caller.stage state (client.advance caller state).1
      (client.advance caller state).2 := by
  rcases caller with ⟨request, stage⟩
  rcases state with ⟨kept, ⟨sent, readings⟩⟩
  cases stage with
  | seeking again =>
      simp only [Client.advance, session]
      cases kept with
      | some token =>
          have course : TokenCourse authenticator transport (some token) (clock readings) sent []
              (.ok token) := .reused rfl ((known token rfl).fresh readings)
          rw [course.perform_token ⟨some token, ⟨sent, readings⟩⟩, List.append_nil]
          exact .reused rfl
      | none =>
          rcases refuses.logsIn sent readings
            with ⟨login, response, token, built, received, read, different, fresh⟩
          have course : TokenCourse authenticator transport none (clock readings) sent [login]
              (authenticator.readLogin response (clock readings)) := .answered rfl built received
          rw [read] at course
          rw [course.perform_token ⟨none, ⟨sent, readings⟩⟩]
          exact .loggedIn rfl (Authenticator.isLogin_of_loginRequest built) different
            ⟨fun same => absurd same different, fresh⟩
  | holding again token =>
      have noLogin := authenticator.isLogin_authorize token request
      simp only [Client.advance, session, Session.perform_send, Transport.host]
      cases received : transport (sent ++ [token.authorize request]) with
      | error error => exact .answered noLogin
      | ok response =>
          by_cases isRefused : response.status = 401 ∧ again = false
          · rcases isRefused with ⟨status, rfl⟩
            simp only [status, and_self, if_true]
            refine .refused noLogin ?_
            -- Tokens are told apart by what the server sees of them, which is the header.
            apply Decidable.byContradiction
            intro different
            exact refuses.accepts sent request response token different received status
          · simp only [isRefused, if_false]
            exact .answered noLogin
  | refused token => exact .dropped
  | done result => exact .idle

def loginsIn (authenticator : Authenticator) (state : SessionState Traffic) : Nat :=
  state.world.sent.countP authenticator.isLogin

/-- Whether a login is still to come: there is no token, or it is the one that is refused. -/
def isDue (stale : Token) (kept : Option Token) : Bool :=
  kept.all (· == stale)

namespace Stage

/-- Whether a call may still make the session forget a token. -/
def mayDrop : Stage → Bool
  | .seeking again | .holding again _ => !again
  | .refused _ => true
  | .done _ => false

/-- Whether a call may be at a stage: all tokens are known, and only the stale one was refused. -/
def IsSound (clock : Nat → UInt64) (stale : Token) : Stage → Prop
  | .holding _ token => IsKnown clock stale token
  | .refused token => token = stale
  | .seeking _ | .done _ => True

theorem refused_of_mem_drop {stage : Stage} {kept : Option Token} {drop : Drop}
    (sound : stage.IsSound clock stale) (member : drop ∈ stage.drop kept) :
    drop.refused = stale := by
  cases stage with
  | refused token =>
      rcases List.mem_singleton.mp member with rfl
      exact sound
  | seeking | holding | done => cases member

end Stage

namespace Effect

variable {before after : Stage} {state next : SessionState Traffic}

theorem isSound (effect : Effect authenticator clock stale before state after next)
    (sound : before.IsSound clock stale)
    (known : ∀ token, state.token = some token → IsKnown clock stale token) :
    after.IsSound clock stale ∧ ∀ token, next.token = some token → IsKnown clock stale token := by
  cases effect with
  | reused kept => exact ⟨known _ kept, known⟩
  | loggedIn noneKept isLogin different isKnown =>
      refine ⟨isKnown, fun token kept => ?_⟩
      rcases Option.some.inj kept with rfl
      exact isKnown
  | refused noLogin same => exact ⟨sound.same same, known⟩
  | answered noLogin => exact ⟨trivial, known⟩
  | dropped => exact ⟨trivial, fun token kept => by cases kept⟩
  | idle => exact ⟨trivial, known⟩

/-- A login is sent only when one is due, and one becomes due only when a token is forgotten that is
not the refused one. -/
theorem balance (effect : Effect authenticator clock stale before state after next)
    (sound : before.IsSound clock stale) :
    loginsIn authenticator next + (isDue stale next.token).toNat =
      loginsIn authenticator state + (isDue stale state.token).toNat +
        (before.drop state.token).countP Drop.overtakes := by
  cases effect with
  | reused kept => rfl
  | @loggedIn again token login _ noneKept isLogin different isKnown =>
      have other : token ≠ stale := fun same => different (same ▸ rfl)
      simp [loginsIn, List.countP_append, isLogin, isDue, noneKept, other, Stage.drop]
  | refused noLogin same => simp [loginsIn, List.countP_append, noLogin, Stage.drop]
  | answered noLogin => simp [loginsIn, List.countP_append, noLogin, Stage.drop]
  | @dropped token _ =>
      -- No login becomes due if one was due already: then the token that goes is the stale one.
      obtain rfl : token = stale := sound
      cases kept : state.token with
      | none => simp [loginsIn, isDue, Stage.drop, Drop.overtakes]
      | some other =>
          by_cases same : other = token
          · simp [loginsIn, isDue, Stage.drop, Drop.overtakes, same]
          · simp [loginsIn, isDue, Stage.drop, Drop.overtakes, same]
  | idle => rfl

/-- A login is sent only when there is no token, and there is none only if it was forgotten. -/
theorem paid (effect : Effect authenticator clock stale before state after next) :
    loginsIn authenticator next + next.token.isNone.toNat ≤
      loginsIn authenticator state + state.token.isNone.toNat +
        (before.drop state.token).length := by
  cases effect with
  | reused kept => exact Nat.le_refl _
  | loggedIn noneKept isLogin different isKnown =>
      simp [loginsIn, List.countP_append, isLogin, noneKept, Stage.drop]
  | refused noLogin same => simp [loginsIn, List.countP_append, noLogin, Stage.drop]
  | answered noLogin => simp [loginsIn, List.countP_append, noLogin, Stage.drop]
  | dropped =>
      simp only [loginsIn, Stage.drop, Option.isNone_none, List.length_singleton]
      have bound : (true : Bool).toNat = 1 := rfl
      omega
  | idle => exact Nat.le_refl _

/-- A call that makes the session forget a token will not do so again. -/
theorem spent (effect : Effect authenticator clock stale before state after next) :
    (before.drop state.token).length + after.mayDrop.toNat ≤ before.mayDrop.toNat := by
  cases effect with
  | reused kept => exact Nat.le_of_eq (Nat.zero_add _)
  | loggedIn noneKept isLogin different isKnown => exact Nat.le_of_eq (Nat.zero_add _)
  | refused noLogin same => exact Nat.le_refl 1
  | answered noLogin => exact Nat.zero_le _
  | dropped => exact Nat.le_refl 1
  | idle => exact Nat.le_refl 0

end Effect

theorem countP_set_add {Item : Type} (test : Item → Bool) {items : List Item} {index : Nat}
    (inside : index < items.length) (item : Item) :
    (items.set index item).countP test + (test items[index]).toNat =
      items.countP test + (test item).toNat := by
  rw [List.countP_set inside]
  cases old : test items[index] with
  | false => cases test item <;> simp
  | true =>
      have positive := List.countP_pos_iff.mpr ⟨_, List.getElem_mem inside, old⟩
      cases test item with
      | false =>
          simp only [if_true, Bool.toNat_true, Bool.toNat_false, Bool.false_eq_true, if_false]
          omega
      | true =>
          simp only [if_true, Bool.toNat_true]
          omega

namespace Crowd

/-- What holds after any number of steps of calls that share a session. The logins are balanced by
the tokens that have gone: the stale one, and each one that was overtaken. Each call makes the
session forget a token at most once. -/
structure IsBalanced (authenticator : Authenticator) (clock : Nat → UInt64) (stale : Token)
    (logins size : Nat) (crowd : Crowd Traffic) : Prop where
  known : ∀ token, crowd.state.token = some token → IsKnown clock stale token
  sound : ∀ caller ∈ crowd.callers, caller.stage.IsSound clock stale
  balance : loginsIn authenticator crowd.state + (isDue stale crowd.state.token).toNat =
    logins + 1 + crowd.drops.countP Drop.overtakes
  paid : loginsIn authenticator crowd.state + crowd.state.token.isNone.toNat ≤
    logins + crowd.drops.length
  spent : crowd.drops.length + crowd.callers.countP (·.stage.mayDrop) ≤ size
  onlyStale : ∀ drop ∈ crowd.drops, drop.refused = stale

variable {crowd : Crowd Traffic} {logins size : Nat}

theorem IsBalanced.step (refuses : transport.RefusesOnly authenticator clock stale)
    (client : Client Traffic) (session : client.session = ⟨transport.host clock, authenticator⟩)
    (balanced : crowd.IsBalanced authenticator clock stale logins size) (index : Nat) :
    (crowd.step client index).IsBalanced authenticator clock stale logins size := by
  unfold Crowd.step
  cases found : crowd.callers[index]? with
  | none => exact balanced
  | some caller =>
      rcases List.getElem?_eq_some_iff.mp found with ⟨inside, isCaller⟩
      have member : caller ∈ crowd.callers := List.mem_of_getElem? found
      have effect := effect_advance refuses client session caller crowd.state balanced.known
      -- Nothing changes but this call and the session, so each sum changes by the share of the
      -- call.
      rcases effect.isSound (balanced.sound caller member) balanced.known with ⟨sound, known⟩
      refine ⟨known, ?_, ?_, ?_, ?_, ?_⟩
      · intro other isOther
        rcases List.mem_or_eq_of_mem_set isOther with old | rfl
        · exact balanced.sound other old
        · exact sound
      · have change := effect.balance (balanced.sound caller member)
        have total := balanced.balance
        simp only [List.countP_append]
        omega
      · have change := effect.paid
        have total := balanced.paid
        simp only [List.length_append]
        omega
      · have change := effect.spent
        have total := balanced.spent
        have counted := countP_set_add (fun other : Caller => other.stage.mayDrop) inside
          { caller with stage := (client.advance caller crowd.state).1 }
        simp only [isCaller] at counted
        simp only [List.length_append]
        omega
      · intro drop isDrop
        rcases List.mem_append.mp isDrop with old | new
        · exact balanced.onlyStale drop old
        · exact Stage.refused_of_mem_drop (balanced.sound caller member) new

theorem IsBalanced.run (refuses : transport.RefusesOnly authenticator clock stale)
    (client : Client Traffic) (session : client.session = ⟨transport.host clock, authenticator⟩)
    (schedule : List Nat) (balanced : crowd.IsBalanced authenticator clock stale logins size) :
    (crowd.run client schedule).IsBalanced authenticator clock stale logins size := by
  induction schedule generalizing crowd with
  | nil => exact balanced
  | cons index rest ih => exact ih (balanced.step refuses client session index)

end Crowd

end Refusal

/-- Whatever the order in which calls take their steps, a single refused token costs one login in
all, once there is no login due any more, and one more for each other token that was forgotten
because of it. No more logins are sent than tokens are forgotten, which each call does at most
once. -/
theorem Crowd.logins_balance {authenticator : Authenticator} {transport : Transport}
    {clock : Nat → UInt64} {stale : Token}
    (refuses : transport.RefusesOnly authenticator clock stale) (routes : Routes) (maxPages : Nat)
    (callers : List Caller)
    (underWay : ∀ caller ∈ callers,
      caller.stage = .seeking false ∨ caller.stage = .holding false stale)
    (earlier : List Http.Request) (readings : Nat) (schedule : List Nat) :
    let client : Client Traffic := ⟨⟨transport.host clock, authenticator⟩, routes, maxPages⟩
    let start : SessionState Traffic := ⟨some stale, ⟨earlier, readings⟩⟩
    let ended := Crowd.run client schedule ⟨callers, start, []⟩
    loginsIn authenticator ended.state + (isDue stale ended.state.token).toNat =
        loginsIn authenticator start + 1 + ended.drops.countP Drop.overtakes ∧
      loginsIn authenticator ended.state ≤ loginsIn authenticator start + ended.drops.length ∧
      ended.drops.length ≤ callers.length ∧ ∀ drop ∈ ended.drops, drop.refused = stale := by
  intro client start ended
  have isKnown : IsKnown clock stale stale := ⟨fun _ => rfl, refuses.fresh⟩
  have balanced : IsBalanced authenticator clock stale (loginsIn authenticator start)
      callers.length ⟨callers, start, []⟩ := by
    refine ⟨?_, ?_, ?_, Nat.le_refl _, ?_, by simp⟩
    · intro token kept
      rcases Option.some.inj kept with rfl
      exact isKnown
    · intro caller member
      rcases underWay caller member with seeks | holds
      · rw [seeks]
        trivial
      · rw [holds]
        exact isKnown
    · simp [start, isDue]
    · simpa using List.countP_le_length
  have final : ended.IsBalanced authenticator clock stale (loginsIn authenticator start)
      callers.length := balanced.run refuses client rfl schedule
  have paid := final.paid
  have spent := final.spent
  exact ⟨final.balance, by omega, by omega, final.onlyStale⟩

def deviceAdministrator : Authenticator :=
  .ofRoot "http://127.0.0.1" (.zcc "key" "secret")

def firstToken : Token :=
  ⟨"T1", .authTokenHeader, 3600000⟩

def loginAnswer : Http.Response :=
  ⟨200, [], "\x7b\"jwtToken\":\"T2\"\x7d"⟩

theorem readLogin_loginAnswer (now : UInt64) :
    deviceAdministrator.readLogin loginAnswer now =
      .ok ⟨"T2", .authTokenHeader, Saturating.add now Authenticator.defaultLifetime⟩ := by
  rfl

/-- A server that refuses the first token, and issues the second one to everybody who logs in. -/
def reissuing : Transport := fun sent =>
  if sent.getLast?.bind (·.headers.getLast?) = some firstToken.header then .ok ⟨401, [], ""⟩
  else .ok loginAnswer

theorem reissuing_refusesOnly :
    reissuing.RefusesOnly deviceAdministrator (fun _ => 0) firstToken where
  fresh _ := by decide
  logsIn earlier _ := by
    have built : ∃ login, deviceAdministrator.loginRequest 0 = .ok login := ⟨_, rfl⟩
    rcases built with ⟨login, built⟩
    refine ⟨login, loginAnswer, ⟨"T2", .authTokenHeader, 3600000⟩, built, ?_,
      eq_ok_of_toOption (by decide +kernel), by decide, fun _ => by decide⟩
    rcases Authenticator.exists_body_of_loginRequest built with ⟨body, rfl⟩
    simp [reissuing, Authenticator.loginWith, firstToken, Token.header]
  accepts earlier request response token different answered := by
    have last : (earlier ++ [token.authorize request]).getLast?.bind (·.headers.getLast?) =
        some token.header := by
      simp [Token.authorize]
    rw [reissuing, last, if_neg (by simpa using different)] at answered
    rcases Except.ok.inj answered with rfl
    decide

/-- Two calls whose token is about to be refused. -/
def twoCallers : List Caller :=
  [⟨.read "http://127.0.0.1/a", .holding false firstToken⟩,
    ⟨.read "http://127.0.0.1/b", .holding false firstToken⟩]

theorem twoCallers_underWay : ∀ caller ∈ twoCallers,
    caller.stage = .seeking false ∨ caller.stage = .holding false firstToken := by
  intro caller member
  simp only [twoCallers, List.mem_cons, List.not_mem_nil, or_false] at member
  rcases member with rfl | rfl
  · exact .inr rfl
  · exact .inr rfl

theorem Crowd.logins_balance_of_twoCallers :
    let client : Client Traffic :=
      ⟨⟨reissuing.host fun _ => 0, deviceAdministrator⟩, .ownHost .zcc "http://127.0.0.1" none, 1⟩
    let start : SessionState Traffic := ⟨some firstToken, ⟨[], 0⟩⟩
    let ended := Crowd.run client [0, 0, 0, 1, 0, 1] ⟨twoCallers, start, []⟩
    loginsIn deviceAdministrator ended.state + (isDue firstToken ended.state.token).toNat =
        loginsIn deviceAdministrator start + 1 + ended.drops.countP Drop.overtakes ∧
      loginsIn deviceAdministrator ended.state ≤
        loginsIn deviceAdministrator start + ended.drops.length ∧
      ended.drops.length ≤ twoCallers.length ∧ ∀ drop ∈ ended.drops, drop.refused = firstToken :=
  logins_balance reissuing_refusesOnly _ 1 twoCallers twoCallers_underWay [] 0 _

/-- The first call has logged in when the second one, refused with the same old token, makes the
session forget the new one. So both log in. -/
theorem Crowd.two_logins_after_one_refused_token :
    let client : Client Traffic :=
      ⟨⟨reissuing.host fun _ => 0, deviceAdministrator⟩, .ownHost .zcc "http://127.0.0.1" none, 1⟩
    let ended := Crowd.run client [0, 1, 0, 0, 1, 1] ⟨twoCallers, ⟨some firstToken, ⟨[], 0⟩⟩, []⟩
    reissuing.RefusesOnly deviceAdministrator (fun _ => 0) firstToken ∧
      (∃ drop ∈ ended.drops, drop.refused = firstToken ∧
        ∃ token, drop.kept = some token ∧ token ≠ firstToken) ∧
      loginsIn deviceAdministrator ended.state = 2 := by
  intro client ended
  refine ⟨reissuing_refusesOnly, ?_, by decide +kernel⟩
  have overtaken : ended.drops.any
      (fun drop => drop.refused == firstToken && drop.overtakes) = true := by
    decide +kernel
  rcases List.any_eq_true.mp overtaken with ⟨drop, member, test⟩
  simp only [Bool.and_eq_true, beq_iff_eq, Drop.overtakes, Option.any_eq_true] at test
  rcases test with ⟨refused, token, kept, different⟩
  exact ⟨drop, member, refused, token, kept, by simpa [refused] using different⟩

end CloudAdmin
