import CloudAdmin.Proofs.Sandbox.Place
import CloudAdmin.Proofs.Sandbox.Storage

/-!
# Requests that are under way at the same time

A sandbox works on many requests at once. What each of them does is cut into steps that nothing
comes between: first the token is looked at, then the records. A record is added in two steps, as
its id is given out before it is stored, and anything may happen in between. Each step leaves a
trace of what it wrote or removed, which can be told from the request and its answer. Main
statement: a request that is left alone does what the sandbox does with it, and a step does one of
six things.
-/

namespace CloudAdmin.Sandbox

section Tasks

/-- How far the work on a request has got. -/
inductive Progress where
  /-- Nothing has been looked at. -/
  | waiting
  /-- The token is good, and the records are about to be looked at. -/
  | admitted
  /-- An id was given out for a record that is not stored yet. -/
  | creating (id : UInt64) (fields : Json.Fields)
  /-- A record was stored under an id. -/
  | created (id : UInt64) (reply : Reply)
  /-- The request was answered in another way. -/
  | done (reply : Reply)

/-- A request that a sandbox works on. -/
structure Task where
  request : Request
  progress : Progress

/-- A write to a record, or its removal. -/
inductive Change where
  | wrote (path : String) (id : UInt64) (value : Json.Value)
  | removed (path : String) (id : UInt64)

/-- The requests that a sandbox works on, what it keeps, and what has been changed so far. -/
structure Workload where
  tasks : List Task
  state : State
  changes : List Change

namespace Progress

/-- The id that was given out. -/
def givenId? : Progress → Option UInt64
  | .creating id _ | .created id _ => some id
  | .waiting | .admitted | .done _ => none

/-- The id under which a record was stored. -/
def createdId? : Progress → Option UInt64
  | .created id _ => some id
  | .waiting | .admitted | .creating _ _ | .done _ => none

def reply? : Progress → Option Reply
  | .created _ reply | .done reply => some reply
  | .waiting | .admitted | .creating _ _ => none

end Progress

namespace Request

instance (request : Request) : Decidable request.IsForResource :=
  inferInstanceAs (Decidable (_ ∨ _))

/-- The answer to a request as it is sent. -/
def received (reply : Reply) (request : Request) : Reply :=
  if request.method == "HEAD" then reply.withoutBody else reply

/-- The record that a request is to add to a collection. -/
def creation? (request : Request) : Option Json.Fields :=
  if request.method = "POST" ∧ isId (splitLast request.place).2 = false then
    match readBody request.body with
    | .error _ => none
    | .ok body =>
        match special? request.method request.place body with
        | some _ => none
        | none => body.bind Json.Value.toObject?
  else none

/-- The record that a request stores under an id. -/
def creation (id : UInt64) (fields : Json.Fields) (request : Request) : Json.Value :=
  withId (Style.ofPath request.place) id (.object fields)

/-- The collection and the id that a request is about. -/
def target? (request : Request) : Option (String × UInt64) :=
  let (path, last) := splitLast request.place
  if isId last then (Text.toWord64? last).map (path, ·) else none

/-- What a request about a record has changed, as its answer tells. -/
def changes (reply : Reply) (request : Request) : List Change :=
  match request.target? with
  | none => []
  | some (path, id) =>
      if 300 ≤ reply.status then []
      else if request.method = "PUT" then
        let sent := (readBody request.body).toOption.bind fun body => body
        [.wrote path id (withId (Style.ofPath request.place) id (sent.getD (.object [])))]
      else if request.method = "DELETE" then [.removed path id]
      else []

end Request

/-- The answer to a request that added a record. -/
def creationReply (style : Style) (created : Json.Value) : Reply :=
  .json (match style with | .zpa => 201 | _ => 200) created

/-- The next step of the work on a request: how far it has got then, what the sandbox keeps, and
what was changed. -/
def Task.advance (supply : TokenSupply) (task : Task) (state : State) :
    Progress × State × List Change :=
  let request := task.request
  match task.progress with
  | .waiting =>
      if request.IsForResource ∧ isAuthorized request state = true then (.admitted, state, [])
      else
        let (reply, after) := handle supply request state
        (.done reply, after, [])
  | .admitted =>
      match request.creation? with
      | some fields =>
          let (id, after) := state.allocate
          (.creating id fields, after, [])
      | none =>
          let (reply, after) := handleAuthorized request state
          (.done (request.received reply), after, request.changes reply)
  | .creating id fields =>
      let created := request.creation id fields
      (.created id (creationReply (Style.ofPath request.place) created),
        state.put request.place id created, [.wrote request.place id created])
  | .created _ _ | .done _ => (task.progress, state, [])

namespace Workload

/-- Requests to a sandbox that was never used. -/
def start (requests : List Request) : Workload :=
  ⟨requests.map fun request => ⟨request, .waiting⟩, .empty, []⟩

/-- One step of the work on the request at some index. -/
def step (supply : TokenSupply) (workload : Workload) (index : Nat) : Workload :=
  match workload.tasks[index]? with
  | none => workload
  | some task =>
      let (progress, state, changes) := task.advance supply workload.state
      ⟨workload.tasks.set index { task with progress }, state, workload.changes ++ changes⟩

def run (supply : TokenSupply) (schedule : List Nat) (workload : Workload) : Workload :=
  schedule.foldl (step supply) workload

end Workload

end Tasks

section Alone

variable {request : Request} {state : State}

theorem addItem_eq (style : Style) (path : String) (fields : Json.Fields) (state : State) :
    addItem style path fields state =
      (creationReply style (withId style state.allocate.1 (.object fields)),
        state.allocate.2.put path state.allocate.1
          (withId style state.allocate.1 (.object fields))) := by
  cases style <;> rfl

theorem handleAuthorized_of_creation {fields : Json.Fields}
    (creates : request.creation? = some fields) (state : State) :
    handleAuthorized request state =
      addItem (Style.ofPath request.place) request.place fields state := by
  rw [Request.creation?] at creates
  split at creates
  · rename_i isPost
    rcases isPost with ⟨isPost, isCollection⟩
    split at creates
    · cases creates
    · rename_i body read
      split at creates
      · cases creates
      · rename_i ordinary
        rw [handleAuthorized_of_read read, ordinary]
        simp [isCollection, handleCollection, isPost, creates]
  · cases creates

theorem received_of_creation {fields : Json.Fields} (creates : request.creation? = some fields)
    (reply : Reply) : request.received reply = reply := by
  rw [Request.creation?] at creates
  split at creates
  · rename_i isPost
    simp [Request.received, isPost.1]
  · cases creates

theorem handle_of_authorized (supply : TokenSupply) (isForResource : request.IsForResource)
    (authorized : isAuthorized request state = true) :
    handle supply request state =
      (request.received (handleAuthorized request state).1,
        (handleAuthorized request state).2) := by
  simp [handle, route_of_isForResource isForResource, handleResource, authorized, Request.received]

/-- A request that is left alone takes three steps, and is answered as the sandbox answers it. -/
theorem Workload.run_alone (supply : TokenSupply) (request : Request) (state : State)
    (changes : List Change) :
    let ended := run supply [0, 0, 0] ⟨[⟨request, .waiting⟩], state, changes⟩
    ended.state = (handle supply request state).2 ∧
      ended.tasks.map (fun task => (task.request, task.progress.reply?)) =
        [(request, some (handle supply request state).1)] := by
  by_cases admitted : request.IsForResource ∧ isAuthorized request state = true
  · rw [handle_of_authorized supply admitted.1 admitted.2]
    cases creates : request.creation? with
    | some fields =>
        rw [handleAuthorized_of_creation creates, received_of_creation creates, addItem_eq]
        simp [run, step, Task.advance, admitted, creates, Progress.reply?, Request.creation]
    | none => simp [run, step, Task.advance, admitted, creates, Progress.reply?]
  · simp [run, step, Task.advance, admitted, Progress.reply?]

end Alone

section Steps

/-- What a request that adds nothing may do to the records, and what is told of it. -/
inductive Settles (request : Request) (state : State) : Reply × State → Prop where
  | kept (reply : Reply) (silent : request.changes reply = []) :
      Settles request state (reply, state)
  | replaced {path : String} {id : UInt64} {value : Json.Value} (reply : Reply)
      (present : (Assoc.find? id (state.items path)).isSome = true)
      (told : request.changes reply = [.wrote path id value]) :
      Settles request state (reply, state.put path id value)
  | removed {path : String} {id : UInt64} (reply : Reply)
      (told : request.changes reply = [.removed path id]) :
      Settles request state (reply, state.remove path id)

variable {request : Request} {state : State}

theorem special?_of_isId {path : String} (numeral : isId (splitLast path).2 = true)
    (method : String) (body : Option Json.Value) : special? method path body = none := by
  have letters : reservedNames.all (fun name => !isId name) = true := by decide
  apply special?_of_free
  intro reserved
  simpa [numeral] using List.all_eq_true.mp letters _ reserved

namespace Request

theorem Names.target {path : String} {id : UInt64} (names : request.Names path id) :
    request.target? = some (path, id) := by
  simp [target?, names.isItem, names.collection, names.read]

theorem changes_of_noTarget (noTarget : request.target? = none) (reply : Reply) :
    request.changes reply = [] := by
  rw [changes, noTarget]

theorem changes_of_failure {reply : Reply} (failure : 300 ≤ reply.status) :
    request.changes reply = [] := by
  unfold changes
  split
  · rfl
  · exact if_pos failure

theorem changes_of_put {path : String} {id : UInt64} {body : Option Json.Value} {reply : Reply}
    (target : request.target? = some (path, id)) (isPut : request.method = "PUT")
    (read : readBody request.body = .ok body) (success : reply.status < 300) :
    request.changes reply =
      [.wrote path id (withId (Style.ofPath request.place) id (body.getD (.object [])))] := by
  simp [changes, target, Nat.not_le.mpr success, isPut, read, Except.toOption]

end Request

theorem replaceItem_eq (style : Style) (path : String) (id : UInt64) (body : Option Json.Value)
    (state : State) :
    replaceItem style path id body state =
      ((replaceItem style path id body state).1,
        state.put path id (withId style id (body.getD (.object [])))) :=
  rfl

theorem Handled.settles {outcome : Reply × State} (addsNothing : request.creation? = none)
    (handled : Handled request state outcome) : Settles request state outcome := by
  cases handled with
  | failed reply failure letIn => exact .kept _ (Request.changes_of_failure (by omega))
  | special read found =>
      refine .kept _ (Request.changes_of_noTarget ?_ _)
      cases isItem : isId (splitLast request.place).2 with
      | true => simp [special?_of_isId isItem] at found
      | false => simp [Request.target?, isItem]
  | shown value isGet names => exact .kept _ (by simp [Request.changes, names.target, isGet])
  | listed values isGet isCollection =>
      exact .kept _ (Request.changes_of_noTarget (by simp [Request.target?, isCollection]) _)
  | added isPost isCollection read ordinary =>
      simp [Request.creation?, isPost, isCollection, read, isPost ▸ ordinary, Json.Value.toObject?]
        at addsNothing
  | @replaced path id body isPut names read present =>
      have success := status_replaceItem (Style.ofPath request.place) path id body state
      rw [replaceItem_eq]
      exact .replaced _ present (Request.changes_of_put names.target isPut read success)
  | removed isDelete names present =>
      exact .removed _ (by simp [Request.changes, names.target, isDelete, Reply.bare])

/-- A request with a good token that adds nothing leaves the records, or replaces or removes one. -/
theorem settles_handleAuthorized (addsNothing : request.creation? = none) (state : State) :
    Settles request state (handleAuthorized request state) :=
  (handled_handleAuthorized request state).settles addsNothing

/-- What a step may do to a request, to what the sandbox keeps, and what is told of it. -/
inductive Advances (request : Request) (state : State) :
    Progress → Progress × State × List Change → Prop where
  | admitted : Advances request state .waiting (.admitted, state, [])
  | finished (reply : Reply) {after : State} (sameStore : after.store = state.store)
      (sameId : after.lastId = state.lastId) :
      Advances request state .waiting (.done reply, after, [])
  | settled {outcome : Reply × State} (settles : Settles request state outcome) :
      Advances request state .admitted
        (.done (request.received outcome.1), outcome.2, request.changes outcome.1)
  | allocated (fields : Json.Fields) (creates : request.creation? = some fields) :
      Advances request state .admitted (.creating state.allocate.1 fields, state.allocate.2, [])
  | inserted (id : UInt64) (fields : Json.Fields) :
      Advances request state (.creating id fields)
        (.created id (creationReply (Style.ofPath request.place) (request.creation id fields)),
          state.put request.place id (request.creation id fields),
          [.wrote request.place id (request.creation id fields)])
  | idle {progress : Progress} : Advances request state progress (progress, state, [])

/-- Every step does one of these things. -/
theorem advances (supply : TokenSupply) (task : Task) (state : State) :
    Advances task.request state task.progress (task.advance supply state) := by
  rcases task with ⟨request, progress⟩
  cases progress with
  | waiting =>
      by_cases isAdmitted : request.IsForResource ∧ isAuthorized request state = true
      · rw [Task.advance, if_pos isAdmitted]
        exact .admitted
      · rw [Task.advance, if_neg isAdmitted]
        rcases handle_of_not_admitted supply isAdmitted with ⟨sameStore, sameId⟩
        exact .finished _ sameStore sameId
  | admitted =>
      cases creates : request.creation? with
      | some fields =>
          simp only [Task.advance, creates]
          exact .allocated fields creates
      | none =>
          simp only [Task.advance, creates]
          exact .settled (settles_handleAuthorized creates state)
  | creating id fields => exact .inserted id fields
  | created id reply => exact .idle
  | done reply => exact .idle

/-- One step concerns one of the requests, if it is any step at all. -/
theorem Workload.step_cases (supply : TokenSupply) (workload : Workload) (index : Nat) :
    workload.step supply index = workload ∨
      ∃ front request progress back next after more,
        workload.tasks = front ++ ⟨request, progress⟩ :: back ∧
          Advances request workload.state progress (next, after, more) ∧
          workload.step supply index =
            ⟨front ++ ⟨request, next⟩ :: back, after, workload.changes ++ more⟩ := by
  cases found : workload.tasks[index]? with
  | none => exact .inl (by simp [step, found])
  | some task =>
      right
      rcases task with ⟨request, progress⟩
      have does := advances supply ⟨request, progress⟩ workload.state
      rcases advanced : Task.advance supply ⟨request, progress⟩ workload.state
        with ⟨next, after, more⟩
      rw [advanced] at does
      rcases List.getElem?_eq_some_iff.mp found with ⟨inside, present⟩
      rcases @List.exists_of_set _ index ⟨request, next⟩ _ inside with ⟨front, back, split, -, set⟩
      rw [present] at split
      refine ⟨front, request, progress, back, next, after, more, split, does, ?_⟩
      simp [step, found, advanced, set]

end Steps

end CloudAdmin.Sandbox
