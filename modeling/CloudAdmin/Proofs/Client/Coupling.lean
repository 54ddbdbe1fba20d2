import CloudAdmin.Proofs.Pagination
import CloudAdmin.Proofs.Sandbox.Login
import CloudAdmin.ServiceCall

/-!
# Clients side by side

Two clients may talk to different worlds, and yet what they keep and what their worlds hold may stay
related in some way while they make the same calls. A call sends requests one after the other, each
depending on the answers to those before it, so it is enough to know that single requests yield the
same for both clients and preserve the relation. That holds of all that one client does as well:
what its requests preserve is preserved by its calls.
-/

namespace CloudAdmin

namespace Action

variable {WorldL WorldR Result Next : Type}
  {related : SessionState WorldL → SessionState WorldR → Prop}

section Bind

variable {World : Type}

theorem perform_bind_of_error {action : Action World Result} {next : Result → Action World Next}
    {state : SessionState World} {error : ApiError}
    (failed : (action.perform state).1 = .error error) :
    (action >>= next).perform state = (.error error, (action.perform state).2) := by
  rw [perform_bind]
  split
  · rename_i same
    simp [same] at failed
  · rename_i same
    simp [same] at failed ⊢
    exact failed

theorem perform_bind_of_ok {action : Action World Result} {next : Result → Action World Next}
    {state : SessionState World} {value : Result}
    (succeeded : (action.perform state).1 = .ok value) :
    (action >>= next).perform state = (next value).perform (action.perform state).2 := by
  rw [perform_bind]
  split
  · rename_i same
    simp [same] at succeeded ⊢
    rw [succeeded]
  · rename_i same
    simp [same] at succeeded

/-- Two actions one after the other fail as the first one does, or as the second one does from
where the first one has got to. -/
theorem perform_bind_cases {action : Action World Result} {next : Result → Action World Next}
    {state : SessionState World} {error : ApiError}
    (failed : ((action >>= next).perform state).1 = .error error) :
    (action.perform state).1 = .error error ∧
        (action >>= next).perform state = (.error error, (action.perform state).2) ∨
      ∃ value, (action >>= next).perform state = (next value).perform (action.perform state).2 := by
  cases yielded : (action.perform state).1 with
  | error other =>
      have whole : (action >>= next).perform state = _ := perform_bind_of_error yielded
      rw [whole] at failed
      rcases Except.error.inj failed with rfl
      exact .inl ⟨rfl, whole⟩
  | ok value => exact .inr ⟨value, perform_bind_of_ok yielded⟩

end Bind

/-- Whether two actions yield the same from related states, and leave related states. -/
def Agree (related : SessionState WorldL → SessionState WorldR → Prop)
    (left : Action WorldL Result) (right : Action WorldR Result) : Prop :=
  ∀ stateL stateR, related stateL stateR →
    (left.perform stateL).1 = (right.perform stateR).1 ∧
      related (left.perform stateL).2 (right.perform stateR).2

namespace Agree

theorem ofExcept (result : Except ApiError Result) :
    Agree related (Action.ofExcept result) (Action.ofExcept result) :=
  fun _ _ start => ⟨rfl, start⟩

theorem pure (value : Result) : Agree related (Pure.pure value) (Pure.pure value) :=
  fun _ _ start => ⟨rfl, start⟩

/-- Actions agree one after the other, if the second ones agree on every value that the first one
may yield. -/
theorem bind {left : Action WorldL Result} {right : Action WorldR Result}
    {nextL : Result → Action WorldL Next} {nextR : Result → Action WorldR Next}
    (first : Agree related left right)
    (second : ∀ value, (∃ state, (left.perform state).1 = .ok value) →
      Agree related (nextL value) (nextR value)) :
    Agree related (left >>= nextL) (right >>= nextR) := by
  intro stateL stateR start
  rcases first stateL stateR start with ⟨results, after⟩
  cases yielded : (left.perform stateL).1 with
  | error error =>
      rw [Action.perform_bind_of_error yielded, Action.perform_bind_of_error (results ▸ yielded)]
      exact ⟨rfl, after⟩
  | ok value =>
      rw [Action.perform_bind_of_ok yielded, Action.perform_bind_of_ok (results ▸ yielded)]
      exact second value ⟨stateL, yielded⟩ _ _ after

end Agree

end Action

/-- The request for the next page that a client finds follows the one that it sent. -/
theorem Client.follows_of_readPage {World : Type} {client : Client World} {endpoint : Endpoint}
    {request next : Http.Request} {state : SessionState World} {page : Page}
    (read : ((client.readPage endpoint request).perform state).1 = .ok page)
    (found : page.next = some next) : Page.Follows endpoint.pagination request next := by
  cases executed : ((client.execute request).perform state).1 with
  | error error =>
      rw [Client.readPage, Action.perform_bind_of_error executed] at read
      cases read
  | ok response =>
      rw [Client.readPage, Action.perform_bind_of_ok executed, Action.perform_ofExcept] at read
      exact Endpoint.follows_of_readPage read found

namespace ServiceCall

/-- The methods and URLs of requests to an endpoint; there are none without an endpoint. -/
def targetsAt (routes : Routes) (resource : Resource)
    (targets : Endpoint → List (Http.Method × String)) : List (Http.Method × String) :=
  match resource.endpoint routes with
  | .ok endpoint => targets endpoint
  | .error _ => []

/-- The methods and URLs of the requests that a call may make. -/
def targets (routes : Routes) : ServiceCall → List (Http.Method × String)
  | .list resource _ | .page resource _ | .find resource _ | .findCategory resource _
  | .recentList resource _ => targetsAt routes resource fun endpoint => [(.get, endpoint.url)]
  | .get resource id => targetsAt routes resource fun endpoint => [(.get, endpoint.itemUrl id)]
  | .add resource _ => targetsAt routes resource fun endpoint => [(.post, endpoint.url)]
  | .update resource id _ => targetsAt routes resource fun endpoint =>
      [(.put, endpoint.itemUrl id), (.get, endpoint.itemUrl id)]
  | .delete resource id => targetsAt routes resource fun endpoint =>
      [(.delete, endpoint.itemUrl id)]
  | .value resource method suffix _ _ | .record resource method suffix _ _
  | .command resource method suffix _ _ => targetsAt routes resource fun endpoint =>
      [(method, Endpoint.join endpoint.url suffix)]
  | .edit resource _ => targetsAt routes resource fun endpoint =>
      [(.put, Endpoint.join endpoint.url "")]
  | .lookUp resource _ => targetsAt routes resource fun endpoint =>
      [(.post, Endpoint.join endpoint.url "")]
  | .recentRecord resource _ => targetsAt routes resource fun endpoint =>
      [(.get, Endpoint.join endpoint.url "")]
  | .ask _ _ | .askBetween _ _ _ _ =>
      match routes.base .zinsights with
      | .ok url => [(.post, url)]
      | .error _ => []

end ServiceCall

/-- Whether a request has one of some targets and carries no token yet. -/
structure Http.Request.AimsAt (targets : List (Http.Method × String)) (request : Http.Request) :
    Prop where
  isTarget : (request.method, request.url) ∈ targets
  onlyContentType : Sandbox.HasOnlyContentType request

namespace Http.Request.AimsAt

variable {targets : List (Http.Method × String)} {request other : Http.Request}

theorem otherPage (aims : request.AimsAt targets) (page : other.IsOtherPageOf request) :
    other.AimsAt targets := by
  rcases page with ⟨query, rfl⟩
  exact ⟨aims.isTarget, aims.onlyContentType⟩

theorem listRequest {endpoint : Endpoint} (query : Query)
    (isTarget : (.get, endpoint.url) ∈ targets) : (endpoint.listRequest query).AimsAt targets :=
  ⟨isTarget, by simp [Endpoint.listRequest, Http.Request.read]⟩

theorem callRequest {endpoint : Endpoint} {method : Http.Method} {suffix : String} (query : Query)
    (body : Option Json.Value)
    (isTarget : (method, Endpoint.join endpoint.url suffix) ∈ targets) :
    (endpoint.callRequest method suffix query body).AimsAt targets := by
  cases body with
  | none => exact ⟨isTarget, by simp [Endpoint.callRequest]⟩
  | some value => exact ⟨isTarget, by simp [Endpoint.callRequest]⟩

end Http.Request.AimsAt

namespace Client

variable {WorldL WorldR Result Next : Type}

/-- Whether two clients do the same to related states as far as requests for some targets go, and
see the same time. -/
structure AreCoupled (related : SessionState WorldL → SessionState WorldR → Prop)
    (targets : List (Http.Method × String)) (left : Client WorldL) (right : Client WorldR) :
    Prop where
  sameRoutes : left.routes = right.routes
  samePages : left.maxPages = right.maxPages
  execute : ∀ request : Http.Request, request.AimsAt targets →
    Action.Agree related (left.execute request) (right.execute request)
  readTime : Action.Agree related (Action.onWorld left.session.host.wallClock)
    (Action.onWorld right.session.host.wallClock)

namespace AreCoupled

open CloudAdmin.Action (Agree)

variable {related : SessionState WorldL → SessionState WorldR → Prop}
  {targets : List (Http.Method × String)} {left : Client WorldL} {right : Client WorldR}
  {endpoint : Endpoint}

theorem readPage (coupled : AreCoupled related targets left right) {request : Http.Request}
    (aims : request.AimsAt targets) :
    Agree related (left.readPage endpoint request) (right.readPage endpoint request) :=
  (coupled.execute request aims).bind fun _ _ => .ofExcept _

/-- A walk keeps to its target, because a page can only lead to another page of the same list. -/
theorem walk (coupled : AreCoupled related targets left right) (pages : Nat)
    {request : Http.Request} (aims : request.AimsAt targets) :
    Agree related (left.walk endpoint pages request) (right.walk endpoint pages request) := by
  induction pages generalizing request with
  | zero => exact .pure _
  | succ pages ih =>
      refine (coupled.readPage aims).bind fun page => ?_
      rintro ⟨state, read⟩
      cases next : page.next with
      | none => exact .pure _
      | some other =>
          refine Agree.bind (ih (aims.otherPage ?_)) fun _ _ => .pure _
          exact (follows_of_readPage read next).isOtherPageOf

theorem listAll (coupled : AreCoupled related targets left right) (query : Query)
    (isTarget : (.get, endpoint.url) ∈ targets) :
    Agree related (left.listAll endpoint query) (right.listAll endpoint query) := by
  rw [Client.listAll, Client.listAll, coupled.samePages]
  exact coupled.walk _ (.listRequest query isTarget)

theorem findByName (coupled : AreCoupled related targets left right) (name : String)
    (isTarget : (.get, endpoint.url) ∈ targets) :
    Agree related (left.findByName endpoint name) (right.findByName endpoint name) :=
  (coupled.listAll _ isTarget).bind fun _ _ => .pure _

theorem get (coupled : AreCoupled related targets left right) {id : String}
    (isTarget : (.get, endpoint.itemUrl id) ∈ targets) :
    Agree related (left.get endpoint id) (right.get endpoint id) := by
  refine (coupled.execute _ ⟨isTarget, ?_⟩).bind fun _ _ => .ofExcept _
  exact Sandbox.hasOnlyContentType_bare _ _

theorem add (coupled : AreCoupled related targets left right) (body : Record)
    (isTarget : (.post, endpoint.url) ∈ targets) :
    Agree related (left.add endpoint body) (right.add endpoint body) := by
  refine (coupled.execute _ ⟨isTarget, ?_⟩).bind fun _ _ => .ofExcept _
  simp [Endpoint.addRequest]

theorem update (coupled : AreCoupled related targets left right) {id : String} (body : Record)
    (isTarget : (.put, endpoint.itemUrl id) ∈ targets)
    (isRead : (.get, endpoint.itemUrl id) ∈ targets) :
    Agree related (left.update endpoint id body) (right.update endpoint id body) := by
  refine (coupled.execute _ ⟨isTarget, by simp [Endpoint.updateRequest]⟩).bind fun response _ => ?_
  refine (Agree.ofExcept _).bind fun stored _ => ?_
  cases stored with
  | some record => exact .pure _
  | none => exact coupled.get isRead

theorem delete (coupled : AreCoupled related targets left right) {id : String}
    (isTarget : (.delete, endpoint.itemUrl id) ∈ targets) :
    Agree related (left.delete endpoint id) (right.delete endpoint id) := by
  refine (coupled.execute _ ⟨isTarget, ?_⟩).bind fun _ _ => .ofExcept _
  exact Sandbox.hasOnlyContentType_bare _ _

theorem call (coupled : AreCoupled related targets left right) {method : Http.Method}
    {suffix : String} (query : Query) (body : Option Json.Value)
    (isTarget : (method, Endpoint.join endpoint.url suffix) ∈ targets) :
    Agree related (left.call endpoint method suffix query body)
      (right.call endpoint method suffix query body) :=
  (coupled.execute _ (.callRequest query body isTarget)).bind fun _ _ => .ofExcept _

theorem callRecord (coupled : AreCoupled related targets left right) {method : Http.Method}
    {suffix : String} (query : Query) (body : Option Json.Value)
    (isTarget : (method, Endpoint.join endpoint.url suffix) ∈ targets) :
    Agree related (left.callRecord endpoint method suffix query body)
      (right.callRecord endpoint method suffix query body) :=
  (coupled.call query body isTarget).bind fun _ _ => .ofExcept _

theorem lookUpBatches (coupled : AreCoupled related targets left right)
    (isTarget : (.post, Endpoint.join endpoint.url "") ∈ targets) (batches : List (List String)) :
    Agree related (left.lookUpBatches endpoint batches)
      (right.lookUpBatches endpoint batches) := by
  induction batches with
  | nil => exact .pure _
  | cons batch rest ih =>
      refine (coupled.call [] _ isTarget).bind fun answer _ => ?_
      refine (Agree.ofExcept _).bind fun items _ => ?_
      exact ih.bind fun _ _ => .pure _

theorem recent (coupled : AreCoupled related targets left right) (query : Query) :
    Agree related (left.recent query) (right.recent query) :=
  coupled.readTime.bind fun _ _ => .pure _

theorem ask (coupled : AreCoupled related targets left right) (query : String)
    (bindings : Json.Value)
    (isTarget : ∀ url, left.routes.base .zinsights = .ok url → (.post, url) ∈ targets) :
    Agree related (left.ask query bindings) (right.ask query bindings) := by
  rw [Client.ask, Client.ask, coupled.sameRoutes]
  refine (Agree.ofExcept _).bind fun url => ?_
  rintro ⟨state, found⟩
  rw [Action.perform_ofExcept, ← coupled.sameRoutes] at found
  refine (coupled.execute _ ⟨isTarget url found, ?_⟩).bind fun _ _ => .ofExcept _
  simp [GraphQuery.request]

theorem withEndpoint (coupled : AreCoupled related targets left right) {resource : Resource}
    {aims : Endpoint → List (Http.Method × String)}
    (within : ServiceCall.targetsAt left.routes resource aims ⊆ targets)
    {nextL : Endpoint → Action WorldL Next} {nextR : Endpoint → Action WorldR Next}
    (next : ∀ endpoint, aims endpoint ⊆ targets → Agree related (nextL endpoint) (nextR endpoint)) :
    Agree related (left.endpoint resource >>= nextL) (right.endpoint resource >>= nextR) := by
  rw [Client.endpoint, Client.endpoint, coupled.sameRoutes]
  refine (Agree.ofExcept _).bind fun endpoint => ?_
  rintro ⟨state, found⟩
  simp only [Action.perform_ofExcept, ← coupled.sameRoutes] at found
  apply next
  simpa only [ServiceCall.targetsAt, found] using within

theorem withTarget (coupled : AreCoupled related targets left right) {resource : Resource}
    {method : Http.Method} {url : Endpoint → String}
    (within : ServiceCall.targetsAt left.routes resource
      (fun endpoint => [(method, url endpoint)]) ⊆ targets)
    {nextL : Endpoint → Action WorldL Next} {nextR : Endpoint → Action WorldR Next}
    (next : ∀ endpoint, (method, url endpoint) ∈ targets →
      Agree related (nextL endpoint) (nextR endpoint)) :
    Agree related (left.endpoint resource >>= nextL) (right.endpoint resource >>= nextR) :=
  coupled.withEndpoint within fun endpoint isTarget =>
    next endpoint (isTarget (List.mem_singleton_self _))

/-- A call agrees for coupled clients, if all its targets are among those that they are coupled
for. -/
theorem run (coupled : AreCoupled related targets left right) (call : ServiceCall)
    (within : call.targets left.routes ⊆ targets) :
    Agree related (left.run call) (right.run call) := by
  cases call with
  | list resource query =>
      refine coupled.withTarget within fun endpoint isTarget => ?_
      exact (coupled.listAll query isTarget).bind fun _ _ => .pure _
  | page resource query =>
      refine coupled.withTarget within fun endpoint isTarget => ?_
      exact (coupled.readPage (.listRequest query isTarget)).bind fun _ _ => .pure _
  | get resource id =>
      refine coupled.withTarget within fun endpoint isTarget => ?_
      exact (coupled.get isTarget).bind fun _ _ => .pure _
  | find resource name =>
      refine coupled.withTarget within fun endpoint isTarget => ?_
      exact (coupled.findByName name isTarget).bind fun _ _ => .pure _
  | add resource body =>
      refine coupled.withTarget within fun endpoint isTarget => ?_
      exact (coupled.add body isTarget).bind fun _ _ => .pure _
  | update resource id body =>
      refine coupled.withEndpoint within fun endpoint areTargets => ?_
      refine (coupled.update body ?_ ?_).bind fun _ _ => .pure _
      · exact areTargets (List.mem_cons_self ..)
      · exact areTargets (List.mem_cons_of_mem _ (List.mem_cons_self ..))
  | delete resource id =>
      refine coupled.withTarget within fun endpoint isTarget => ?_
      exact (coupled.delete isTarget).bind fun _ _ => .pure _
  | value resource method suffix query body =>
      refine coupled.withTarget within fun endpoint isTarget => ?_
      exact (coupled.call query body isTarget).bind fun _ _ => .pure _
  | record resource method suffix query body =>
      refine coupled.withTarget within fun endpoint isTarget => ?_
      exact (coupled.callRecord query body isTarget).bind fun _ _ => .pure _
  | command resource method suffix query body =>
      refine coupled.withTarget within fun endpoint isTarget => ?_
      exact (coupled.call query body isTarget).bind fun _ _ => .pure _
  | edit resource body =>
      refine (Agree.ofExcept _).bind fun _ _ => ?_
      refine coupled.withTarget within fun endpoint isTarget => ?_
      exact (coupled.callRecord [] _ isTarget).bind fun _ _ => .pure _
  | findCategory resource name =>
      refine coupled.withTarget within fun endpoint isTarget => ?_
      exact (coupled.listAll [] isTarget).bind fun _ _ => .pure _
  | lookUp resource urls =>
      refine coupled.withTarget within fun endpoint isTarget => ?_
      exact (coupled.lookUpBatches isTarget _).bind fun _ _ => .pure _
  | recentList resource query =>
      refine coupled.withTarget within fun endpoint isTarget => ?_
      refine (coupled.recent query).bind fun windowed _ => ?_
      exact (coupled.listAll windowed isTarget).bind fun _ _ => .pure _
  | recentRecord resource query =>
      refine coupled.withTarget within fun endpoint isTarget => ?_
      refine (coupled.recent query).bind fun windowed _ => ?_
      exact (coupled.callRecord windowed none isTarget).bind fun _ _ => .pure _
  | ask query bindings =>
      refine (coupled.ask query bindings fun url found => ?_).bind fun _ _ => .pure _
      exact within (by simp [ServiceCall.targets, found])
  | askBetween query startTime endTime limit =>
      have asked := coupled.ask query (rangeVariables startTime endTime limit) fun url found =>
        within (by simp [ServiceCall.targets, found])
      rw [Client.run, Client.run]
      by_cases empty : endTime ≤ startTime
      · simp only [empty, if_true]
        exact (Agree.ofExcept _).bind fun _ _ => asked.bind fun _ _ => .pure _
      · simp only [empty, if_false]
        exact asked.bind fun _ _ => .pure _

end AreCoupled

/-- What every request of a client preserves, and every reading of the clock, its calls preserve. -/
theorem run_keeps {World : Type} (client : Client World) {Keeps : SessionState World → Prop}
    (execute : ∀ request state, Keeps state → Keeps ((client.execute request).perform state).2)
    (readTime : ∀ state, Keeps state →
      Keeps ((Action.onWorld client.session.host.wallClock).perform state).2)
    (call : ServiceCall) {state : SessionState World} (start : Keeps state) :
    Keeps ((client.run call).perform state).2 := by
  have coupled : client.AreCoupled (fun stateL stateR => stateL = stateR ∧ Keeps stateL)
      (call.targets client.routes) client :=
    { sameRoutes := rfl
      samePages := rfl
      execute := by
        rintro request - state _ ⟨rfl, kept⟩
        exact ⟨rfl, rfl, execute request state kept⟩
      readTime := by
        rintro state _ ⟨rfl, kept⟩
        exact ⟨rfl, rfl, readTime state kept⟩ }
  exact (coupled.run call (List.Subset.refl _) state state ⟨rfl, start⟩).2.2

end Client

end CloudAdmin
