import CloudAdmin.Proofs.Client.Answers
import CloudAdmin.Proofs.Client.Coupling
import CloudAdmin.Proofs.Services.Offering
import CloudAdmin.Proofs.Session.TokenCourse
import CloudAdmin.Proofs.Settings.Resolving

/-!
# Checks before the first request

A call looks at its arguments, then at the routes, and sends its first request only when nothing is
wrong with either. What can be wrong is listed here in the order in which a call looks for it. Main
statement: settings always lead to routes, to all products or to the one that has the flow's host; a
call with something wrong fails with the first error on its list, and nothing was sent then nor has
the session changed; and the errors about arguments and missing products come from nowhere else,
unless the transport itself gives one of them in place of its last answer.
-/

namespace CloudAdmin

section Unlocking

/-- The product on whose own host a flow logs in. The gateway has none. -/
def LoginFlow.product? : LoginFlow → Option Product
  | .oneApi => none
  | .zia => some .zia
  | .zpa => some .zpa
  | .zcc => some .zcc
  | .zdx => some .zdx

/-- Whether routes lead to a product for settings with a flow: to each of them through the gateway,
or to the one that has the flow's host. -/
def Routes.Unlock (flow : LoginFlow) (routes : Routes) : Prop :=
  ∀ product, routes.has product = true ↔ flow.product? = none ∨ flow.product? = some product

theorem Routes.unlock_gateway (root : String) (customerId : Option String) :
    (Routes.gateway root customerId).Unlock .oneApi :=
  fun _ => ⟨fun _ => .inl rfl, fun _ => rfl⟩

theorem Routes.unlock_ownHost {flow : LoginFlow} {product : Product}
    (isOwn : flow.product? = some product) (root : String) (customerId : Option String) :
    (Routes.ownHost product root customerId).Unlock flow := by
  intro other
  simp [isOwn, Routes.has, Routes.ownHost]

theorem Settings.exists_unlock (settings : Settings) :
    ∃ resolved, settings.resolve = .ok resolved ∧ resolved.2.Unlock settings.login.flow := by
  rcases settings with ⟨login, timeout, baseUrl, loginUrl, maxPages, maxResponseBytes⟩
  cases login with
  | oneApi => exact ⟨_, rfl, Routes.unlock_gateway _ _⟩
  | zia | zpa | zcc | zdx => exact ⟨_, resolveOwn_eq rfl _ _, Routes.unlock_ownHost rfl _ _⟩

end Unlocking

section Faults

namespace ServiceCall

/-- What is wrong with the arguments of a call: a window that does not end after its start, or a
record to be replaced whose id is missing or null. -/
def argumentFaults : ServiceCall → List ApiError
  | .askBetween _ startTime endTime _ =>
      if endTime ≤ startTime then [.emptyWindow startTime endTime] else []
  | .edit _ body =>
      match body.find? "id" with
      | none | some .null => [.missingField "id"]
      | some _ => []
  | _ => []

theorem require_id (resource : Resource) (body : Record) :
    ((edit resource body).argumentFaults = [] ∧ ∃ id, body.require "id" = .ok id) ∨
      (edit resource body).argumentFaults = [.missingField "id"] ∧
        body.require "id" = .error (.missingField "id") := by
  cases found : body.find? "id" with
  | none => simp [argumentFaults, Record.require, found]
  | some value => cases value <;> simp [argumentFaults, Record.require, found]

end ServiceCall

/-- What is wrong with routes that are to lead to a product: it is not unlocked, or it belongs to a
customer who is not known. -/
def Routes.faults (product : Product) (routes : Routes) : List ApiError :=
  (if routes.has product then [] else [.productUnavailable product]) ++
    if product = .zpa ∧ routes.customerId = none then [.noCustomerId] else []

/-- Whether a call that a product offers has unsound arguments, is about a product that is not
unlocked, or is one of ZPA without a customer. -/
def ServiceCall.CannotBeMade (routes : Routes) (product : Product) (call : ServiceCall) : Prop :=
  call.argumentFaults ≠ [] ∨ routes.has product = false ∨
    product = .zpa ∧ routes.customerId = none

/-- What is wrong with a call that a product offers, in the order in which it is checked. -/
def ServiceCall.faults (routes : Routes) (product : Product) (call : ServiceCall) :
    List ApiError :=
  call.argumentFaults ++ routes.faults product

/-- The kinds of errors that say why a call cannot be made. -/
def faultKinds : List ErrorKind :=
  [.invalidArgument, .missingField, .productUnavailable, .configuration]

theorem ServiceCall.exists_fault {routes : Routes} {product : Product} {call : ServiceCall}
    (cannot : call.CannotBeMade routes product) :
    ∃ error, (call.faults routes product).head? = some error := by
  have faulty : call.faults routes product ≠ [] := by
    rw [faults, Routes.faults]
    rcases cannot with unsound | locked | noCustomer
    · simp [unsound]
    · simp [locked]
    · simp [noCustomer]
  exact ⟨_, List.head?_eq_some_head faulty⟩

theorem ServiceCall.kind_of_argumentFault {call : ServiceCall} {error : ApiError}
    (unsound : error ∈ call.argumentFaults) : error.kind ∈ faultKinds := by
  cases call with
  | edit resource body =>
      rcases require_id resource body with ⟨sound, -⟩ | ⟨missing, -⟩
      · rw [sound] at unsound
        cases unsound
      · rw [missing, List.mem_singleton] at unsound
        rcases unsound with rfl
        simp [ApiError.kind, faultKinds]
  | askBetween query startTime endTime limit =>
      rcases List.mem_ite_nil_right.mp unsound with ⟨-, isEmpty⟩
      rcases List.mem_singleton.mp isEmpty with rfl
      simp [ApiError.kind, faultKinds]
  | _ => cases unsound

theorem ServiceCall.kind_of_fault {routes : Routes} {product : Product} {call : ServiceCall}
    {error : ApiError} (first : (call.faults routes product).head? = some error) :
    error.kind ∈ faultKinds := by
  have member := List.mem_of_head? first
  rw [faults, Routes.faults, List.mem_append, List.mem_append] at member
  rcases member with unsound | locked | noCustomer
  · exact kind_of_argumentFault unsound
  · rcases List.mem_ite_nil_left.mp locked with ⟨-, isLocked⟩
    rcases List.mem_singleton.mp isLocked with rfl
    simp [ApiError.kind, faultKinds]
  · rcases List.mem_ite_nil_right.mp noCustomer with ⟨-, isMissing⟩
    rcases List.mem_singleton.mp isMissing with rfl
    decide

/-- The base of a product can be had just if the product is unlocked. -/
theorem Routes.base_eq_ok_or_error (routes : Routes) (product : Product) :
    (routes.has product = true ∧ ∃ base, routes.base product = .ok base) ∨
      routes.has product = false ∧ routes.base product = .error (.productUnavailable product) := by
  rcases routes with ⟨reach, root, customerId⟩
  cases reach with
  | gateway => exact .inl ⟨rfl, _, rfl⟩
  | ownHost only =>
      by_cases same : only = product
      · exact .inl ⟨by simp [Routes.has, same], _, if_pos same⟩
      · exact .inr ⟨by simp [Routes.has, same], if_neg same⟩

theorem Scope.base_of_productUnavailable {routes : Routes} {product : Product} {scope : Scope}
    (isOf : scope.isOf product = true)
    (locked : routes.base product = .error (.productUnavailable product)) :
    scope.base routes = .error (.productUnavailable product) := by
  cases scope with
  | product service =>
      have isService : service = product := by simp_all [Scope.isOf]
      rw [Scope.base, isService, locked]
  | management version =>
      have isZpa : product = .zpa := by simpa [Scope.isOf] using isOf
      rw [Scope.base, Routes.management, ← isZpa, locked]
      rfl
  | userConfiguration =>
      have isZpa : product = .zpa := by simpa [Scope.isOf] using isOf
      rw [Scope.base, Routes.userConfiguration, ← isZpa, locked]
      rfl

/-- Without a customer, the scopes of ZPA have no base even if ZPA is unlocked. -/
theorem Scope.base_of_noCustomerId {routes : Routes} {base : String} {scope : Scope}
    (isOf : scope.isOf .zpa = true) (unlocked : routes.base .zpa = .ok base)
    (noCustomer : routes.customerId = none) : scope.base routes = .error .noCustomerId := by
  have refused : routes.customer = .error .noCustomerId := by rw [Routes.customer, noCustomer]
  cases scope with
  | product service => simp [Scope.isOf] at isOf
  | management version =>
      rw [Scope.base, Routes.management, unlocked, refused]
      rfl
  | userConfiguration =>
      rw [Scope.base, Routes.userConfiguration, unlocked, refused]
      rfl

/-- What is wrong with the routes is what keeps a scope from having a base. -/
theorem Scope.base_of_routeFaults {routes : Routes} {product : Product} {scope : Scope}
    {error : ApiError} (isOf : scope.isOf product = true)
    (first : (routes.faults product).head? = some error) :
    scope.base routes = .error error := by
  rcases routes.base_eq_ok_or_error product with ⟨has, base, found⟩ | ⟨hasNot, locked⟩
  · simp only [Routes.faults, has, if_true, List.nil_append] at first
    split at first
    · rename_i withoutCustomer
      rcases withoutCustomer with ⟨rfl, noCustomer⟩
      rcases Option.some.inj first with rfl
      exact base_of_noCustomerId isOf found noCustomer
    · cases first
  · simp only [Routes.faults, hasNot, Bool.false_eq_true, if_false, List.cons_append,
      List.head?_cons] at first
    rcases Option.some.inj first with rfl
    exact base_of_productUnavailable isOf locked

end Faults

section Failing

variable {World : Type} {client : Client World}

theorem Client.perform_endpoint_bind_of_error {Next : Type} {resource : Resource}
    {error : ApiError} (failed : resource.scope.base client.routes = .error error)
    (next : Endpoint → Action World Next) (state : SessionState World) :
    (client.endpoint resource >>= next).perform state = (.error error, state) := by
  have noEndpoint : resource.endpoint client.routes = .error error := by
    rw [Resource.endpoint, failed]
    rfl
  rw [Client.endpoint, noEndpoint]
  exact Action.perform_bind_of_error rfl

theorem Client.perform_ask_bind_of_error {Next : Type} {query : String} {bindings : Json.Value}
    {error : ApiError} (failed : client.routes.base .zinsights = .error error)
    (next : Record → Action World Next) (state : SessionState World) :
    (client.ask query bindings >>= next).perform state = (.error error, state) := by
  have noAnswer : (client.ask query bindings).perform state = (.error error, state) := by
    rw [ask, failed]
    exact Action.perform_bind_of_error rfl
  rw [Action.perform_bind, noAnswer]

/-- A call with sound arguments whose base cannot be had does nothing else than say so. -/
theorem Client.run_of_base_error {call : ServiceCall} {error : ApiError}
    (sound : call.argumentFaults = []) (failed : call.scope.base client.routes = .error error)
    (state : SessionState World) : (client.run call).perform state = (.error error, state) := by
  cases call with
  | edit resource body =>
      rcases ServiceCall.require_id resource body with ⟨-, id, found⟩ | ⟨unsound, -⟩
      · have given : ((Action.ofExcept (body.require "id")).perform state).1 = .ok id := found
        rw [run, Action.perform_bind_of_ok given]
        exact perform_endpoint_bind_of_error failed _ state
      · rw [unsound] at sound
        cases sound
  | ask query bindings => exact perform_ask_bind_of_error failed _ state
  | askBetween query startTime endTime limit =>
      have ordered : ¬endTime ≤ startTime := by
        intro reversed
        simp [ServiceCall.argumentFaults, reversed] at sound
      simp only [run, if_neg ordered]
      exact perform_ask_bind_of_error failed _ state
  | _ => exact perform_endpoint_bind_of_error failed _ state

/-- A call with an argument that is not sound does nothing else than say so. -/
theorem Client.run_of_argumentFault {call : ServiceCall} {error : ApiError}
    (first : call.argumentFaults.head? = some error) (state : SessionState World) :
    (client.run call).perform state = (.error error, state) := by
  cases call with
  | edit resource body =>
      rcases ServiceCall.require_id resource body with ⟨sound, -⟩ | ⟨unsound, missing⟩
      · rw [sound] at first
        cases first
      · rw [unsound] at first
        rcases Option.some.inj first with rfl
        exact Action.perform_bind_of_error missing
  | askBetween query startTime endTime limit =>
      simp only [ServiceCall.argumentFaults] at first
      split at first
      · rename_i reversed
        rcases Option.some.inj first with rfl
        simp only [run, if_pos reversed]
        exact Action.perform_bind_of_error rfl
      · cases first
  | _ => cases first

/-- A call fails with the first of its faults, and then it has done nothing. -/
theorem Client.run_of_fault {product : Product} {call : ServiceCall}
    (offers : product.Offers call) {error : ApiError}
    (first : (call.faults client.routes product).head? = some error)
    (state : SessionState World) : (client.run call).perform state = (.error error, state) := by
  cases sound : call.argumentFaults with
  | nil =>
      rw [ServiceCall.faults, sound, List.nil_append] at first
      exact run_of_base_error sound (Scope.base_of_routeFaults offers.isOf first) state
  | cons fault others =>
      rw [ServiceCall.faults, sound, List.cons_append, List.head?_cons] at first
      exact run_of_argumentFault (sound ▸ first) state

end Failing

section Reporting

variable {transport : Transport} {Result Next : Type}

/-- Whether an action leaves what was sent before it, and at most adds to it. -/
def Action.OnlyAdds (action : Action Traffic Result) : Prop :=
  ∀ state, state.world.sent <+: (action.perform state).2.world.sent

theorem Action.OnlyAdds.bind {first : Action Traffic Result} {next : Result → Action Traffic Next}
    (adds : first.OnlyAdds) (each : ∀ value, (next value).OnlyAdds) :
    Action.OnlyAdds (first >>= next) := by
  intro state
  cases yielded : (first.perform state).1 with
  | error error =>
      rw [perform_bind_of_error yielded]
      exact adds state
  | ok value =>
      rw [perform_bind_of_ok yielded]
      exact (adds state).trans (each value _)

namespace Transport

/-- Whether the last of the requests that were sent after others has an error in place of an
answer. -/
def HasJustGiven (transport : Transport) (earlier : List Http.Request) (error : ApiError)
    (sent : List Http.Request) : Prop :=
  ∃ between last, sent = earlier ++ (between ++ [last]) ∧ transport sent = .error error

theorem HasJustGiven.of_isPrefix {earlier later sent : List Http.Request} {error : ApiError}
    (onward : earlier <+: later) (given : transport.HasJustGiven later error sent) :
    transport.HasJustGiven earlier error sent := by
  rcases onward with ⟨first, rfl⟩
  rcases given with ⟨between, last, rfl, failed⟩
  exact ⟨first ++ between, last, by simp, failed⟩

/-- Whether an action only adds to what was sent, and reports errors of a check only where its own
last request has such an error in place of an answer. -/
structure Explains (transport : Transport) (action : Action Traffic Result) : Prop where
  adds : Action.OnlyAdds action
  explained : ∀ state error, (action.perform state).1 = .error error → error.kind ∈ checkKinds →
    transport.HasJustGiven state.world.sent error (action.perform state).2.world.sent

namespace Explains

theorem ofExcept {result : Except ApiError Result} (isPast : IsPastChecks result) :
    transport.Explains (Action.ofExcept result) where
  adds _ := List.prefix_rfl
  explained _ error failed isCheck := absurd isCheck (isPast error failed)

/-- What neither fails nor sends anything leaves nothing to explain. -/
theorem of_quiet {action : Action Traffic Result}
    (succeeds : ∀ state, ∃ value, (action.perform state).1 = .ok value)
    (sendsNothing : ∀ state, (action.perform state).2.world.sent = state.world.sent) :
    transport.Explains action where
  adds state := by simp [sendsNothing]
  explained state error failed isCheck := by
    rcases succeeds state with ⟨value, succeeded⟩
    rw [succeeded] at failed
    cases failed

theorem pure (value : Result) : transport.Explains (Pure.pure value) :=
  of_quiet (fun _ => ⟨value, rfl⟩) fun _ => rfl

theorem bind {first : Action Traffic Result} {next : Result → Action Traffic Next}
    (explains : transport.Explains first) (each : ∀ value, transport.Explains (next value)) :
    transport.Explains (first >>= next) where
  adds := explains.adds.bind fun value => (each value).adds
  explained state error failed isCheck := by
    rcases Action.perform_bind_cases failed with ⟨early, ended⟩ | ⟨value, late⟩
    · rw [ended]
      exact explains.explained state error early isCheck
    · rw [late] at failed ⊢
      exact ((each value).explained _ error failed isCheck).of_isPrefix (explains.adds state)

end Explains

end Transport

open Transport (Explains)

variable {clock : Nat → UInt64}

namespace Session

variable {session : Session Traffic} (hosted : session.host = transport.host clock)

include hosted

theorem explains_send (request : Http.Request) : transport.Explains (session.send request) where
  adds state := by
    rw [perform_send, hosted]
    exact List.prefix_append ..
  explained state error failed isCheck := by
    rw [perform_send, hosted] at failed ⊢
    exact ⟨[], request, rfl, failed⟩

theorem explains_login (now : UInt64) : transport.Explains (session.login now) := by
  refine (Explains.ofExcept (.loginRequest now _)).bind fun request => ?_
  refine (explains_send hosted request).bind fun response => ?_
  refine (Explains.ofExcept (.readLogin response now _)).bind fun token => ?_
  exact .of_quiet (fun _ => ⟨token, rfl⟩) fun _ => rfl

theorem explains_token : transport.Explains session.token := by
  refine (Explains.of_quiet (fun state => ⟨state, rfl⟩) fun _ => rfl).bind fun state => ?_
  refine (Explains.of_quiet (fun _ => ⟨_, rfl⟩) fun _ => by rw [hosted]; rfl).bind fun now => ?_
  split
  · exact .pure _
  · exact explains_login hosted now

end Session

namespace Client

variable {client : Client Traffic} {endpoint : Endpoint}
  (hosted : client.session.host = transport.host clock)

include hosted

theorem explains_sendAuthorized (request : Http.Request) :
    transport.Explains (client.sendAuthorized request) :=
  (Session.explains_token hosted).bind fun _ => Session.explains_send hosted _

theorem explains_execute (request : Http.Request) :
    transport.Explains (client.execute request) := by
  refine (explains_sendAuthorized hosted request).bind fun response => ?_
  split
  · exact .pure _
  · refine (Explains.of_quiet (fun _ => ⟨(), rfl⟩) fun _ => rfl).bind fun _ => ?_
    exact explains_sendAuthorized hosted request

theorem explains_readPage (request : Http.Request) :
    transport.Explains (client.readPage endpoint request) :=
  (explains_execute hosted request).bind fun _ => .ofExcept (.readPage _ _ _)

theorem explains_listAll (query : Query) :
    transport.Explains (client.listAll endpoint query) := by
  have walk (pages : Nat) (request : Http.Request) :
      transport.Explains (client.walk endpoint pages request) := by
    induction pages generalizing request with
    | zero => exact .pure _
    | succ pages ih =>
        refine (explains_readPage hosted request).bind fun page => ?_
        split
        · exact .pure _
        · exact (ih _).bind fun _ => .pure _
  exact walk _ _

theorem explains_get (id : String) : transport.Explains (client.get endpoint id) :=
  (explains_execute hosted _).bind fun _ => .ofExcept (.record _)

theorem explains_call (method : Http.Method) (suffix : String) (query : Query)
    (body : Option Json.Value) :
    transport.Explains (client.call endpoint method suffix query body) :=
  (explains_execute hosted _).bind fun _ => .ofExcept (.value _)

theorem explains_callRecord (method : Http.Method) (suffix : String) (query : Query)
    (body : Option Json.Value) :
    transport.Explains (client.callRecord endpoint method suffix query body) :=
  (explains_call hosted method suffix query body).bind fun _ => .ofExcept (.ofValue _)

theorem explains_update (id : String) (body : Record) :
    transport.Explains (client.update endpoint id body) := by
  refine (explains_execute hosted _).bind fun response => ?_
  refine (Explains.ofExcept (.optionalRecord response)).bind fun stored => ?_
  split
  · exact .pure _
  · exact explains_get hosted id

theorem explains_lookUpBatches (batches : List (List String)) :
    transport.Explains (client.lookUpBatches endpoint batches) := by
  induction batches with
  | nil => exact .pure _
  | cons batch rest ih =>
      refine (explains_call hosted _ _ _ _).bind fun answer => ?_
      refine (Explains.ofExcept (.lookUpItems answer)).bind fun items => ?_
      exact ih.bind fun _ => .pure _

theorem explains_recent (query : Query) : transport.Explains (client.recent query) :=
  (Explains.of_quiet (fun _ => ⟨_, rfl⟩) fun _ => by rw [hosted]; rfl).bind fun _ => .pure _

end Client

/-- Whether an action only adds to what was sent, and reports errors of a check only if it has done
nothing, or where its own last request has such an error in place of an answer. -/
structure Transport.ChecksFirst (transport : Transport) (action : Action Traffic Result) : Prop
    where
  adds : Action.OnlyAdds action
  explained : ∀ state error, (action.perform state).1 = .error error → error.kind ∈ checkKinds →
    (action.perform state).2 = state ∨
      transport.HasJustGiven state.world.sent error (action.perform state).2.world.sent

namespace Transport.ChecksFirst

/-- A check may come before anything else. -/
theorem afterCheck {result : Except ApiError Result} {next : Result → Action Traffic Next}
    (each : ∀ value, transport.ChecksFirst (next value)) :
    transport.ChecksFirst (Action.ofExcept result >>= next) := by
  cases result with
  | error failure => exact ⟨fun _ => List.prefix_rfl, fun _ _ _ _ => .inl rfl⟩
  | ok value => exact ⟨(each value).adds, (each value).explained⟩

theorem bind {first : Action Traffic Result} {next : Result → Action Traffic Next}
    (checked : transport.ChecksFirst first) (each : ∀ value, transport.Explains (next value)) :
    transport.ChecksFirst (first >>= next) where
  adds := checked.adds.bind fun value => (each value).adds
  explained state error failed isCheck := by
    rcases Action.perform_bind_cases failed with ⟨early, ended⟩ | ⟨value, late⟩
    · rw [ended]
      exact checked.explained state error early isCheck
    · rw [late] at failed ⊢
      exact .inr (((each value).explained _ error failed isCheck).of_isPrefix (checked.adds state))

end Transport.ChecksFirst

open Transport (ChecksFirst)

theorem Transport.Explains.checksFirst {action : Action Traffic Result}
    (explains : transport.Explains action) : transport.ChecksFirst action where
  adds := explains.adds
  explained state error failed isCheck := .inr (explains.explained state error failed isCheck)

namespace Client

variable {client : Client Traffic} (hosted : client.session.host = transport.host clock)

include hosted

theorem checksFirst_ask (query : String) (bindings : Json.Value) :
    transport.ChecksFirst (client.ask query bindings) := by
  refine .afterCheck fun url => Explains.checksFirst ?_
  exact (explains_execute hosted _).bind fun _ => .ofExcept (.readResponse _)

/-- Errors of a check come before anything else is done. -/
theorem checksFirst_run (call : ServiceCall) :
    transport.ChecksFirst (client.run call) := by
  cases call with
  | list resource query =>
      exact .afterCheck fun _ => ((explains_listAll hosted query).bind fun _ => .pure _).checksFirst
  | page resource query =>
      exact .afterCheck fun _ => ((explains_readPage hosted _).bind fun _ => .pure _).checksFirst
  | get resource id =>
      exact .afterCheck fun _ => ((explains_get hosted id).bind fun _ => .pure _).checksFirst
  | find resource name =>
      refine .afterCheck fun _ => Explains.checksFirst ?_
      exact ((explains_listAll hosted _).bind fun _ => .pure _).bind fun _ => .pure _
  | add resource body =>
      refine .afterCheck fun _ => Explains.checksFirst ?_
      exact ((explains_execute hosted _).bind fun _ => .ofExcept (.record _)).bind fun _ => .pure _
  | update resource id body =>
      exact .afterCheck fun _ =>
        ((explains_update hosted id body).bind fun _ => .pure _).checksFirst
  | delete resource id =>
      refine .afterCheck fun _ => Explains.checksFirst ?_
      exact ((explains_execute hosted _).bind fun _ => .ofExcept (.check _)).bind fun _ => .pure _
  | value resource method suffix query body =>
      exact .afterCheck fun _ =>
        ((explains_call hosted method suffix query body).bind fun _ => .pure _).checksFirst
  | record resource method suffix query body =>
      exact .afterCheck fun _ =>
        ((explains_callRecord hosted method suffix query body).bind fun _ => .pure _).checksFirst
  | command resource method suffix query body =>
      exact .afterCheck fun _ =>
        ((explains_call hosted method suffix query body).bind fun _ => .pure _).checksFirst
  | edit resource body =>
      refine .afterCheck fun _ => .afterCheck fun _ => Explains.checksFirst ?_
      exact (explains_callRecord hosted _ _ _ _).bind fun _ => .pure _
  | findCategory resource name =>
      exact .afterCheck fun _ => ((explains_listAll hosted _).bind fun _ => .pure _).checksFirst
  | lookUp resource urls =>
      exact .afterCheck fun _ =>
        ((explains_lookUpBatches hosted _).bind fun _ => .pure _).checksFirst
  | recentList resource query =>
      refine .afterCheck fun _ => Explains.checksFirst ?_
      exact (explains_recent hosted query).bind fun _ =>
        (explains_listAll hosted _).bind fun _ => .pure _
  | recentRecord resource query =>
      refine .afterCheck fun _ => Explains.checksFirst ?_
      exact (explains_recent hosted query).bind fun _ =>
        (explains_callRecord hosted _ _ _ _).bind fun _ => .pure _
  | ask query bindings => exact (checksFirst_ask hosted query bindings).bind fun _ => .pure _
  | askBetween query startTime endTime limit =>
      rw [run]
      split
      · exact .afterCheck fun _ => (checksFirst_ask hosted _ _).bind fun _ => .pure _
      · exact (checksFirst_ask hosted _ _).bind fun _ => .pure _

end Client

end Reporting

/-- Settings lead to all products through the gateway, or to the one product of their flow. Whatever
a transport answers and whatever a client keeps, a call that cannot be made fails with the first of
its faults, and neither the client nor the transport has been touched then: no request was sent, not
even a login. Conversely, a call that has sent anything reports an error about its arguments or
about a product that is not unlocked only if the transport itself gave this error in place of the
answer to the last request of the call. -/
theorem Client.run_checks_first (settings : Settings) (transport : Transport)
    (clock : Nat → UInt64) (authenticator : Authenticator) (routes : Routes) (maxPages : Nat)
    {product : Product} {call : ServiceCall} (offers : product.Offers call)
    (state : SessionState Traffic) :
    let client : Client Traffic := ⟨⟨transport.host clock, authenticator⟩, routes, maxPages⟩
    let outcome := (client.run call).perform state
    (∃ resolved, settings.resolve = .ok resolved ∧ resolved.2.Unlock settings.login.flow) ∧
    (call.CannotBeMade routes product →
      ∃ error, (call.faults routes product).head? = some error ∧ error.kind ∈ faultKinds ∧
        outcome = (.error error, state)) ∧
    ∀ error, outcome.1 = .error error → error.kind ∈ checkKinds →
      outcome.2 = state ∨
        transport.HasJustGiven state.world.sent error outcome.2.world.sent := by
  intro client outcome
  refine ⟨settings.exists_unlock, fun cannot => ?_, (checksFirst_run rfl call).explained state⟩
  rcases ServiceCall.exists_fault cannot with ⟨error, first⟩
  exact ⟨error, first, ServiceCall.kind_of_fault first, run_of_fault offers first state⟩

/-- A transport that answers one login, and calls ZIA unavailable whatever is asked afterwards. -/
def denying : Transport := fun sent =>
  if sent.length = 1 then .ok ⟨200, [], "\x7b\"access_token\":\"T\"\x7d"⟩
  else .error (.productUnavailable .zia)

/-- A client with some routes that is answered by this transport. -/
def deniedClient (routes : Routes) : Client Traffic :=
  ⟨⟨denying.host fun _ => 0, .ofRoot "http://127.0.0.1" (.oneApi "id" "secret")⟩, routes, 1⟩

/-- A file with settings whose customer has an id without characters, which an environment would
not take for an id. -/
def namelessCustomer : String :=
  String.intercalate "\n" ["[auth]", "flow = \"oneapi\"", "client_id = \"id\"",
    "client_secret = \"secret\"", "vanity_domain = \"acme\"", "customer_id = \"\""]

/-- A network without an id is not replaced, a product that is not unlocked is not asked, and
without a customer there is no policy set. What a transport says of ZIA is not said by the client.
-/
theorem Client.run_checks_first_of_denied :
    let state : SessionState Traffic := ⟨none, ⟨[], 0⟩⟩
    let gateway := deniedClient (.gateway "http://127.0.0.1" none)
    let ownHost := deniedClient (.ownHost .zcc "http://127.0.0.1" none)
    (gateway.run (Zcc.updateTrustedNetwork .empty)).perform state =
        (.error (.missingField "id"), state) ∧
      (ownHost.run Zia.urlQuota).perform state = (.error (.productUnavailable .zia), state) ∧
      (gateway.run (Zpa.policySet "ACCESS_POLICY")).perform state =
        (.error .noCustomerId, state) ∧
      denying.HasJustGiven [] (.productUnavailable .zia)
        ((gateway.run Zia.urlQuota).perform state).2.world.sent := by
  intro state gateway ownHost
  have checks (routes : Routes) {product : Product} {call : ServiceCall}
      (offers : product.Offers call) :=
    run_checks_first (.ofLogin (.oneApi "id" ⟨"secret"⟩ "acme" "" none)) denying (fun _ => 0)
      (.ofRoot "http://127.0.0.1" (.oneApi "id" "secret")) routes 1 offers state
  refine ⟨?_, ?_, ?_, ?_⟩
  · have unsound : (Zcc.updateTrustedNetwork .empty).argumentFaults = [.missingField "id"] := rfl
    rcases (checks (.gateway "http://127.0.0.1" none) (.updateTrustedNetwork .empty)).2.1
      (.inl (by simp [unsound])) with ⟨error, first, -, failed⟩
    rcases Option.some.inj first with rfl
    exact failed
  · rcases (checks (.ownHost .zcc "http://127.0.0.1" none) .urlQuota).2.1
      (.inr (.inl rfl)) with ⟨error, first, -, failed⟩
    rcases Option.some.inj first with rfl
    exact failed
  · rcases (checks (.gateway "http://127.0.0.1" none) (.policySet "ACCESS_POLICY")).2.1
      (.inr (.inr ⟨rfl, rfl⟩)) with ⟨error, first, -, failed⟩
    rcases Option.some.inj first with rfl
    exact failed
  · rcases (checks (.gateway "http://127.0.0.1" none) .urlQuota).2.2 (.productUnavailable .zia) rfl
      (by decide) with untouched | given
    · exact absurd (congrArg (·.world.sent.length) untouched) (by decide +kernel)
    · exact given

/-- A call of a product that is unlocked can send two requests and end with the product unavailable.
And a call of ZPA is sent for a customer without characters in the id. -/
theorem Client.run_sends_and_is_denied :
    (let gateway := deniedClient (.gateway "http://127.0.0.1" none)
      let outcome := (gateway.run Zia.urlQuota).perform ⟨none, ⟨[], 0⟩⟩
      Product.zia.Offers Zia.urlQuota ∧ outcome.1 = .error (.productUnavailable .zia) ∧
        outcome.2.world.sent.length = 2) ∧
      ∃ settings authenticator routes, Settings.ofToml namelessCustomer = .ok settings ∧
        settings.resolve = .ok (authenticator, routes) ∧ routes.customerId = some "" ∧
          let call := Zpa.policySet "ACCESS_POLICY"
          let outcome := ((deniedClient routes).run call).perform ⟨none, ⟨[], 0⟩⟩
          Product.zpa.Offers call ∧ outcome.2.world.sent.length = 2 := by
  refine ⟨⟨.urlQuota, rfl, by decide +kernel⟩, ?_⟩
  exact ⟨.ofLogin (.oneApi "id" ⟨"secret"⟩ "acme" "production" (some "")), _, _,
    eq_ok_of_toOption (by decide +kernel), rfl, rfl, .policySet "ACCESS_POLICY",
    by decide +kernel⟩

end CloudAdmin
