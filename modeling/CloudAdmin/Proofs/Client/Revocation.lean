import CloudAdmin.Proofs.Client.Agreement
import CloudAdmin.Proofs.Sandbox.Direct
import CloudAdmin.Proofs.Sandbox.Target

/-!
# Tokens that are taken back

The tokens that a sandbox issued may be taken back at any time, also while a client walks through
the pages of a list. Main statement: if the sandbox accepts the client's credentials, no sequence of
calls about resources shows when that happened. Every call yields what it yields if no token is ever
taken back, and the records and the last id in the sandbox are the same at the end. The one thing
that has to be ruled out is that a token is taken back between the login with which the client
answers a refusal and the request that it then sends again.
-/

namespace CloudAdmin

/-- Make some calls, one after the other. A call that fails does not keep later ones from being
made. -/
def Client.runAll {World : Type} (client : Client World) :
    List ServiceCall → SessionState World → List (Except ApiError Answer) × SessionState World
  | [], state => ([], state)
  | call :: rest, state =>
      let (answer, after) := (client.run call).perform state
      let (answers, final) := client.runAll rest after
      (answer :: answers, final)

namespace Sandbox

/-- A request that was passed on to a sandbox, and the response to it. -/
abbrev Exchange := Http.Request × Http.Response

/-- A sandbox together with what it was asked so far. -/
structure Logged where
  sandbox : State
  log : List Exchange

/-- When all tokens are taken back: whether before the next request, after some exchanges. -/
abbrev Schedule := List Exchange → Bool

/-- The request that takes all tokens back. -/
def revocation : Request :=
  ⟨"POST", "/mock/revoke-tokens", [], [], ""⟩

/-- The state that the next request meets. -/
def Logged.met (supply : TokenSupply) (schedule : Schedule) (world : Logged) : State :=
  if schedule world.log then (handle supply revocation world.sandbox).2 else world.sandbox

/-- The host that leads to a sandbox whose tokens are taken back by a schedule, with clocks that
stand still. -/
def host (supply : TokenSupply) (now wall : UInt64) (schedule : Schedule) : Host Logged where
  sessionClock world := (now, world)
  wallClock world := (wall, world)
  send request world :=
    match send supply request (world.met supply schedule) with
    | (.ok response, sandbox) => (.ok response, ⟨sandbox, world.log ++ [(request, response)]⟩)
    | (.error error, sandbox) => (.error error, ⟨sandbox, world.log⟩)

/-- The schedule that never takes a token back. -/
def Schedule.never : Schedule :=
  fun _ => false

/-- Whether a schedule takes no token back right after a login that follows a refusal. -/
def Schedule.SparesReplays (schedule : Schedule) (authenticator : Authenticator) : Prop :=
  ∀ (earlier : List Exchange) (refused login : Exchange), refused.2.status = 401 →
    login.1.method = .post → login.1.url = authenticator.loginUrl →
      schedule (earlier ++ [refused, login]) = false

variable {supply : TokenSupply} {authenticator : Authenticator} {now wall : UInt64}
  {schedule : Schedule}

theorem met_eq (supply : TokenSupply) (schedule : Schedule) (world : Logged) :
    world.met supply schedule = world.sandbox ∨
      world.met supply schedule = world.sandbox.revokeAll := by
  unfold Logged.met
  split
  · exact .inr rfl
  · exact .inl rfl

theorem passesOn_host (supply : TokenSupply) (now wall : UInt64) (schedule : Schedule)
    (request : Http.Request) (world : Logged) :
    PassesOn supply (host supply now wall schedule) Logged.sandbox request world
      (world.met supply schedule) := by
  simp only [PassesOn, host]
  rcases send supply request (world.met supply schedule) with ⟨_ | _, _⟩ <;> exact ⟨rfl, rfl⟩

theorem log_of_answered {request : Http.Request} {response : Http.Response} {world : Logged}
    (answered : ((host supply now wall schedule).send request world).1 = .ok response) :
    ((host supply now wall schedule).send request world).2.log =
      world.log ++ [(request, response)] := by
  simp only [host] at answered ⊢
  rcases sent : send supply request (world.met supply schedule) with ⟨_ | answer, after⟩
  · simp [sent] at answered
  · simp only [sent] at answered
    rcases Except.ok.inj answered with rfl
    rfl

/-- A schedule that spares replays leaves the client with a sandbox that it reaches. -/
theorem reaches_host (issues : ∀ login, IsTokenText (supply login))
    (accepts : Accepts supply authenticator now) (spares : schedule.SparesReplays authenticator) :
    Reaches supply authenticator (host supply now wall schedule) Logged.sandbox where
  issues := issues
  accepts _ := accepts
  keeps _ := rfl
  passes request world := by
    have passed := passesOn_host supply now wall schedule request world
    rcases met_eq supply schedule world with met | met
    · exact .inl (met ▸ passed)
    · exact .inr (met ▸ passed)
  spares refused response login welcome request world answered status method address := by
    intro renewed welcomed
    have log : renewed.2.log = world.log ++ [(refused, response), (login, welcome)] := by
      rw [log_of_answered welcomed]
      change ((host supply now wall schedule).send refused world).2.log ++ _ = _
      rw [log_of_answered answered, List.append_assoc]
      rfl
    have spared := spares world.log (refused, response) (login, welcome) status method address
    have met : renewed.2.met supply schedule = renewed.2.sandbox := by
      rw [Logged.met, log, spared]
      rfl
    exact met ▸ passesOn_host supply now wall schedule request renewed.2

theorem runAll_agrees {WorldL WorldR : Type} {sandboxL : WorldL → State} {sandboxR : WorldR → State}
    {left : Client WorldL} {right : Client WorldR}
    (twins : AreTwins supply sandboxL sandboxR left right) (calls : List ServiceCall)
    (areResources : ∀ call ∈ calls, ∀ target ∈ call.targets left.routes,
      IsResource target.1 target.2)
    (stateL : SessionState WorldL) (stateR : SessionState WorldR)
    (same : held sandboxL stateL = held sandboxR stateR) :
    (left.runAll calls stateL).1 = (right.runAll calls stateR).1 ∧
      held sandboxL (left.runAll calls stateL).2 = held sandboxR (right.runAll calls stateR).2 := by
  induction calls generalizing stateL stateR with
  | nil => exact ⟨rfl, same⟩
  | cons call rest ih =>
      rcases twins.run call (areResources call (List.mem_cons_self ..)) _ _ same
          with ⟨answer, after⟩
      rcases ih
          (fun later member => areResources later (List.mem_cons_of_mem _ member)) _ _ after
          with ⟨answers, final⟩
      exact ⟨by simp only [Client.runAll, answer, answers], final⟩

/-- Whether tokens are taken back while some calls are made shows neither in what the calls yield
nor in what the sandbox holds afterwards. -/
theorem runAll_ignores_revocations (routes : Routes) (maxPages : Nat)
    (issues : ∀ login, IsTokenText (supply login)) (accepts : Accepts supply authenticator now)
    (spares : schedule.SparesReplays authenticator) (calls : List ServiceCall)
    (areResources : ∀ call ∈ calls, ∀ target ∈ call.targets routes, IsResource target.1 target.2)
    (kept : Option Token) (log : List Exchange) (sandbox : State) :
    let client (schedule : Schedule) : Client Logged :=
      ⟨⟨host supply now wall schedule, authenticator⟩, routes, maxPages⟩
    let disturbed := (client schedule).runAll calls ⟨kept, ⟨sandbox, log⟩⟩
    let undisturbed := (client .never).runAll calls ⟨kept, ⟨sandbox, log⟩⟩
    disturbed.1 = undisturbed.1 ∧
      disturbed.2.world.sandbox.store = undisturbed.2.world.sandbox.store ∧
        disturbed.2.world.sandbox.lastId = undisturbed.2.world.sandbox.lastId := by
  intro client disturbed undisturbed
  have never : Schedule.never.SparesReplays authenticator := fun _ _ _ _ _ _ => rfl
  have twins : AreTwins supply Logged.sandbox Logged.sandbox (client schedule) (client .never) :=
    { reachesL := reaches_host issues accepts spares
      reachesR := reaches_host issues accepts never
      sameRoutes := rfl
      samePages := rfl
      sameTime := fun _ _ => rfl
      keepsL := fun _ => rfl
      keepsR := fun _ => rfl }
  rcases runAll_agrees twins calls areResources
      ⟨kept, ⟨sandbox, log⟩⟩ ⟨kept, ⟨sandbox, log⟩⟩ rfl with ⟨answers, contents⟩
  exact ⟨answers, congrArg Contents.store contents, congrArg Contents.lastId contents⟩

/-- The schedule that takes all tokens back whenever something was read. -/
def afterReads : Schedule :=
  fun log => log.getLast?.any fun exchange => exchange.1.method == .get

theorem afterReads_sparesReplays (authenticator : Authenticator) :
    afterReads.SparesReplays authenticator := by
  intro earlier refused login _ method _
  simp [afterReads, method]

/-- The users of a customer. -/
def localUsers : Resource :=
  ⟨.product .zia, "users", .zia⟩

/-- Two users are added and then listed, one on each page. -/
def addAndList : List ServiceCall :=
  [.add localUsers ⟨[("name", .string "a")]⟩, .add localUsers ⟨[("name", .string "b")]⟩,
    .list localUsers [("pageSize", "1")]]

theorem addAndList_areResources : ∀ call ∈ addAndList,
    ∀ target ∈ call.targets (Routes.gateway "http://127.0.0.1:3000" none),
      IsResource target.1 target.2 := by
  have parsed : (Url.parse "http://127.0.0.1:3000/zia/api/v1/users").toOption =
      some ⟨"http".toList, some ⟨[], .ipv4 0x7F000001, some 3000⟩,
        .segments ["zia".toList, "api".toList, "v1".toList, "users".toList], none, none⟩ := by
    decide +kernel
  have targets : ∀ call ∈ addAndList,
      ∀ target ∈ call.targets (Routes.gateway "http://127.0.0.1:3000" none),
        target.2 = "http://127.0.0.1:3000/zia/api/v1/users" := by
    decide +kernel
  intro call member target aimed
  rw [targets call member target aimed]
  exact isResource_of_not_mem (eq_ok_of_toOption parsed) ⟨by decide, by decide, by decide⟩
    (by decide) _

theorem runAll_ignores_revocation_between_pages :
    let client (schedule : Schedule) : Client Logged :=
      ⟨⟨host countingSupply 0 0 schedule, localCustomer⟩,
        Routes.gateway "http://127.0.0.1:3000" none, 5⟩
    let disturbed := (client afterReads).runAll addAndList ⟨none, ⟨.empty, []⟩⟩
    let undisturbed := (client .never).runAll addAndList ⟨none, ⟨.empty, []⟩⟩
    disturbed.1 = undisturbed.1 ∧
      disturbed.2.world.sandbox.store = undisturbed.2.world.sandbox.store ∧
        disturbed.2.world.sandbox.lastId = undisturbed.2.world.sandbox.lastId :=
  runAll_ignores_revocations _ 5 isTokenText_countingSupply accepts_localCustomer
    (afterReads_sparesReplays _) addAndList addAndList_areResources none [] .empty

end Sandbox

end CloudAdmin
