import Mathlib.Data.List.Forall2
import CloudAdmin.Proofs.Client.Paging
import CloudAdmin.Proofs.Client.Visits
import CloudAdmin.Proofs.Json.RoundTrip
import CloudAdmin.ServiceCall

/-!
# Looking URLs up in batches

However many URLs are looked up, a server is asked for a bounded number of them at a time. A look-up
is told here as a list of visits, one for each batch that was asked for. Main statement: whatever
the server answers, no batch is empty or too large, the batches are asked for in the order of the
URLs, and there are no more of them than there have to be. The look-up yields what the answers
bring, one after the other, or it ends with the first answer that brings nothing of the kind.
-/

namespace CloudAdmin

section Batches

variable {bound : Nat} {urls batch : List String}

theorem flatten_batchesWithin (fits : urls.length ≤ bound) :
    (batchesWithin bound urls).flatten = urls := by
  fun_induction batchesWithin bound urls with
  | case1 urls => rw [List.eq_nil_of_length_eq_zero (Nat.eq_zero_of_le_zero fits), List.flatten_nil]
  | case2 bound => rfl
  | case3 bound urls notEmpty ih =>
      have shorter : (urls.drop lookUpBatch).length ≤ bound := by
        rw [List.length_drop, lookUpBatch]
        omega
      rw [List.flatten_cons, ih shorter, List.take_append_drop]

theorem length_batchesWithin (fits : urls.length ≤ bound) :
    (batchesWithin bound urls).length = (urls.length + 99) / 100 := by
  fun_induction batchesWithin bound urls with
  | case1 urls => rw [Nat.eq_zero_of_le_zero fits, List.length_nil]
  | case2 bound => rfl
  | case3 bound urls notEmpty ih =>
      have positive := List.length_pos_iff.mpr notEmpty
      have size : lookUpBatch = 100 := rfl
      rw [List.length_drop, size] at ih
      rw [List.length_cons, size, ih (by omega)]
      omega

theorem length_of_mem_batchesWithin (member : batch ∈ batchesWithin bound urls) :
    0 < batch.length ∧ batch.length ≤ 100 := by
  fun_induction batchesWithin bound urls with
  | case1 urls => cases member
  | case2 bound => cases member
  | case3 bound urls notEmpty ih =>
      rcases List.mem_cons.mp member with rfl | later
      · have positive := List.length_pos_iff.mpr notEmpty
        rw [List.length_take, lookUpBatch]
        omega
      · exact ih later

end Batches

namespace Client

/-- The request for a batch of URLs. -/
def lookUpRequest (endpoint : Endpoint) (batch : List String) : Http.Request :=
  endpoint.callRequest .post "" [] (some (.array (batch.map .string)))

/-- The records that are found in a response. -/
def lookUpRecords (response : Http.Response) : Except ApiError (List Record) := do
  let answer ← response.value
  lookUpItems answer

/-- The records that are found in the answer to a visit. -/
def Visit.lookedUp (visit : Visit) : Except ApiError (List Record) :=
  visit.answer >>= lookUpRecords

/-- What a visit for a batch may bring: nothing if the answer is blank or null, and the records of
an array of records. Other answers bring nothing of the kind. -/
inductive Visit.Brings (visit : Visit) : List Record → Prop where
  | nothing {response : Http.Response} (answered : visit.answer = .ok response)
      (isSuccess : response.isSuccess = true)
      (empty : Text.isBlankText response.body = true ∨ Json.parse? response.body = some .null) :
      Brings visit []
  | array {response : Http.Response} {records : List Record}
      (answered : visit.answer = .ok response) (isSuccess : response.isSuccess = true)
      (listed : Json.parse? response.body = some (.array (records.map Record.toValue))) :
      Brings visit records

/-- How visits for batches make up a look-up, and what comes of it: there is one visit for each
batch, up to the first one that brings nothing of the kind. -/
inductive IsLookUp (endpoint : Endpoint) :
    List (List String) → List Visit → Except ApiError (List Record) → Prop where
  | done : IsLookUp endpoint [] [] (.ok [])
  | failed {batch : List String} {later : List (List String)} {visit : Visit} {error : ApiError}
      (asks : visit.request = lookUpRequest endpoint batch) (lost : visit.lookedUp = .error error) :
      IsLookUp endpoint (batch :: later) [visit] (.error error)
  | goesOn {batch : List String} {later : List (List String)} {visit : Visit}
      {visits : List Visit} {records : List Record} {result : Except ApiError (List Record)}
      (asks : visit.request = lookUpRequest endpoint batch)
      (brought : visit.lookedUp = .ok records) (rest : IsLookUp endpoint later visits result) :
      IsLookUp endpoint (batch :: later) (visit :: visits)
        (result.map fun items => records ++ items)

section Answers

theorem value_eq_ok_iff {response : Http.Response} {answer : Json.Value} :
    response.value = .ok answer ↔ response.isSuccess = true ∧
      (Text.isBlankText response.body = true ∧ answer = .null ∨
        Json.parse? response.body = some answer) := by
  rw [Http.Response.value, Http.Response.check]
  by_cases success : response.isSuccess = true
  · by_cases blank : Text.isBlankText response.body = true
    · have unread : Json.parse? response.body ≠ some answer := by
        intro parsed
        rw [Json.isBlankText_of_parse? parsed] at blank
        cases blank
      simp [success, blank, unread, bind, Except.bind, pure, Except.pure, eq_comm]
    · cases parsed : Json.parse? response.body with
      | none => simp [success, blank, bind, Except.bind]
      | some value => simp [success, blank, bind, Except.bind, pure, Except.pure]
  · simp [success, bind, Except.bind]

theorem lookUpItems_eq_ok_iff {answer : Json.Value} {records : List Record} :
    lookUpItems answer = .ok records ↔
      answer = .null ∧ records = [] ∨ answer = .array (records.map Record.toValue) := by
  cases answer with
  | null => simp [lookUpItems, eq_comm]
  | array items => simp [lookUpItems, Record.mapM_ofValue_eq_ok_iff]
  | bool | number | string | object => simp [lookUpItems]

theorem Visit.lookedUp_eq_ok_iff {visit : Visit} {records : List Record} :
    visit.lookedUp = .ok records ↔ visit.Brings records := by
  constructor
  · intro found
    rcases exists_of_bind_eq_ok found with ⟨response, answered, next⟩
    rcases exists_of_bind_eq_ok next with ⟨answer, isAnswer, items⟩
    rcases value_eq_ok_iff.mp isAnswer with ⟨success, brought⟩
    rcases lookUpItems_eq_ok_iff.mp items with ⟨rfl, rfl⟩ | rfl
    · exact .nothing answered success (brought.imp And.left id)
    · rcases brought with ⟨-, same⟩ | listed
      · cases same
      · exact .array answered success listed
  · intro brings
    cases brings with
    | nothing answered success empty =>
        have isAnswer := value_eq_ok_iff.mpr ⟨success, empty.imp (fun blank => ⟨blank, rfl⟩) id⟩
        simp only [lookedUp, lookUpRecords, answered, bind, Except.bind, isAnswer, lookUpItems]
    | array answered success listed =>
        have isAnswer := value_eq_ok_iff.mpr ⟨success, .inr listed⟩
        have isItems : lookUpItems (.array (records.map Record.toValue)) = .ok records :=
          lookUpItems_eq_ok_iff.mpr (.inr rfl)
        simp only [lookedUp, lookUpRecords, answered, bind, Except.bind, isAnswer, isItems]

end Answers

section Steps

variable {endpoint : Endpoint} {batches : List (List String)} {visits : List Visit}
  {result : Except ApiError (List Record)}

/-- The batches that are asked for come first, and they are all of them if the look-up succeeds. -/
theorem IsLookUp.exists_asked (isLookUp : IsLookUp endpoint batches visits result) :
    ∃ asked left, batches = asked ++ left ∧
      visits.map Visit.request = asked.map (lookUpRequest endpoint) ∧
      ∀ records, result = .ok records → left = [] := by
  induction isLookUp with
  | done => exact ⟨[], [], rfl, rfl, fun _ _ => rfl⟩
  | @failed batch later visit error asks lost =>
      exact ⟨[batch], later, rfl, by simp [asks], nofun⟩
  | @goesOn batch later visit visits records result asks brought rest ih =>
      rcases ih with ⟨asked, left, rfl, requests, whole⟩
      refine ⟨batch :: asked, left, rfl, by simp [asks, requests], ?_⟩
      intro all succeeded
      cases result with
      | error error => cases succeeded
      | ok items => exact whole items rfl

/-- After a visit that brings nothing of the kind there is no other. -/
theorem IsLookUp.brings (isLookUp : IsLookUp endpoint batches visits result)
    {before later : List Visit} {visit : Visit} (split : visits = before ++ visit :: later)
    (goesOn : later ≠ []) : ∃ records, visit.Brings records := by
  induction isLookUp generalizing before with
  | done => simp at split
  | failed asks lost =>
      cases before with
      | nil => exact absurd (List.cons.inj split).2.symm goesOn
      | cons head before => simp at split
  | goesOn asks brought rest ih =>
      cases before with
      | nil =>
          rcases List.cons.inj split with ⟨rfl, -⟩
          exact ⟨_, Visit.lookedUp_eq_ok_iff.mp brought⟩
      | cons head before => exact ih (List.cons.inj split).2

/-- A look-up yields what all visits bring, or the failure of the last one. -/
theorem IsLookUp.ends (isLookUp : IsLookUp endpoint batches visits result) :
    (∃ lists, List.Forall₂ Visit.Brings visits lists ∧ result = .ok lists.flatten) ∨
      ∃ visit error, visits.getLast? = some visit ∧ visit.lookedUp = .error error ∧
        result = .error error := by
  induction isLookUp with
  | done => exact .inl ⟨[], .nil, rfl⟩
  | failed asks lost => exact .inr ⟨_, _, rfl, lost, rfl⟩
  | @goesOn batch later visit visits records result asks brought rest ih =>
      rcases ih with ⟨lists, brings, rfl⟩ | ⟨last, error, isLast, lost, rfl⟩
      · exact .inl ⟨records :: lists, .cons (Visit.lookedUp_eq_ok_iff.mp brought) brings, rfl⟩
      · refine .inr ⟨last, error, ?_, lost, rfl⟩
        rw [List.getLast?_cons, isLast]
        rfl

/-- The first batch is one call; if that brings records, the others are looked up after it. -/
theorem perform_lookUpBatches_cons {World : Type} {client : Client World} {batch : List String}
    {state after : SessionState World} {answer : Except ApiError Http.Response}
    (performed : (client.execute (lookUpRequest endpoint batch)).perform state = (answer, after)) :
    (client.lookUpBatches endpoint (batch :: batches)).perform state =
      match answer >>= lookUpRecords with
      | .error error => (.error error, after)
      | .ok records =>
          let ended := (client.lookUpBatches endpoint batches).perform after
          (ended.1.map fun items => records ++ items, ended.2) := by
  rw [lookUpRequest] at performed
  simp only [lookUpBatches, call, Action.perform_bind, performed]
  cases answer with
  | error error => rfl
  | ok response =>
      simp only [Action.perform_ofExcept, lookUpRecords, bind, Except.bind]
      cases response.value with
      | error error => rfl
      | ok value =>
          simp only []
          cases lookUpItems value with
          | error error => rfl
          | ok records =>
              simp only []
              rcases (client.lookUpBatches endpoint batches).perform after with ⟨_ | _, _⟩ <;> rfl

/-- Looking batches up is a look-up in visits, whatever is answered. -/
theorem exists_isLookUp {authenticator : Authenticator} {transport : Transport}
    {clock : Nat → UInt64} (client : Client Traffic)
    (session : client.session = ⟨transport.host clock, authenticator⟩) (endpoint : Endpoint)
    (batches : List (List String)) (kept : Option Token) (earlier : List Http.Request)
    (readings : Nat) :
    let ended := (client.lookUpBatches endpoint batches).perform ⟨kept, ⟨earlier, readings⟩⟩
    ∃ visits, IsLookUp endpoint batches visits ended.1 ∧
      AreMade authenticator transport earlier visits ∧
      ended.2.world.sent = earlier ++ visits.flatMap Visit.sent := by
  -- A look-up goes on from whatever state the batches before have left.
  induction batches generalizing kept earlier readings with
  | nil => exact ⟨[], .done, .nil, by simp [lookUpBatches]⟩
  | cons batch later ih =>
      rcases exists_execution client session (lookUpRequest endpoint batch) kept earlier readings
        with ⟨visit, now, renewed, left, after, asks, course, performed⟩
      rw [perform_lookUpBatches_cons performed, ← Visit.lookedUp]
      cases brought : visit.lookedUp with
      | error error => exact ⟨[visit], .failed asks brought, .cons course .nil, by simp⟩
      | ok records =>
          rcases ih left (earlier ++ visit.sent) after with ⟨visits, isLookUp, areMade, sent⟩
          refine ⟨visit :: visits, .goesOn asks brought isLookUp, .cons course areMade, ?_⟩
          rw [List.flatMap_cons, ← List.append_assoc, ← sent]

end Steps

/-- Whether visits look URLs up in batches, and what comes of it. The batches are neither empty nor
larger than a hundred, they are asked for in the order of the URLs, and all of them if the look-up
succeeds. There are no more of them than there have to be, and none is asked for after a visit that
brings nothing of the kind. -/
structure LooksUp (endpoint : Endpoint) (urls : List String) (visits : List Visit)
    (result : Except ApiError (List Record)) : Prop where
  batched : ∃ asked : List (List String),
    visits.map Visit.request = asked.map (lookUpRequest endpoint) ∧
    (∀ batch ∈ asked, 0 < batch.length ∧ batch.length ≤ 100) ∧ asked.flatten <+: urls ∧
    ∀ records, result = .ok records → asked.flatten = urls
  few : visits.length ≤ (urls.length + 99) / 100
  stops : ∀ before visit later, visits = before ++ visit :: later → later ≠ [] →
    ∃ records, visit.Brings records
  ends : (∃ lists, List.Forall₂ Visit.Brings visits lists ∧ result = .ok lists.flatten) ∨
    ∃ visit error, visits.getLast? = some visit ∧ visit.lookedUp = .error error ∧
      result = .error error

theorem IsLookUp.looksUp {endpoint : Endpoint} {urls : List String} {visits : List Visit}
    {result : Except ApiError (List Record)}
    (isLookUp : IsLookUp endpoint (batches urls) visits result) :
    LooksUp endpoint urls visits result := by
  rcases isLookUp.exists_asked with ⟨asked, left, split, requests, whole⟩
  have all : asked.flatten ++ left.flatten = urls := by
    rw [← List.flatten_append, ← split, batches, flatten_batchesWithin (Nat.le_refl _)]
  refine ⟨⟨asked, requests, ?_, ⟨left.flatten, all⟩, ?_⟩, ?_, ?_, isLookUp.ends⟩
  · intro batch member
    exact length_of_mem_batchesWithin (split ▸ List.mem_append_left left member)
  · intro records succeeded
    rw [← all, whole records succeeded, List.flatten_nil, List.append_nil]
  · have count := congrArg List.length requests
    have most := congrArg List.length split
    rw [batches, length_batchesWithin (Nat.le_refl _), List.length_append] at most
    rw [List.length_map, List.length_map] at count
    omega
  · exact fun before visit later => isLookUp.brings

/-- Whatever is answered, URLs are looked up in batches, and nothing else is sent. -/
theorem lookUp_visits {authenticator : Authenticator} {transport : Transport}
    {clock : Nat → UInt64} (client : Client Traffic)
    (session : client.session = ⟨transport.host clock, authenticator⟩) {resource : Resource}
    {endpoint : Endpoint} (found : resource.endpoint client.routes = .ok endpoint)
    (urls : List String) (kept : Option Token) (earlier : List Http.Request) (readings : Nat) :
    let ended := (client.run (.lookUp resource urls)).perform ⟨kept, ⟨earlier, readings⟩⟩
    ∃ visits result, LooksUp endpoint urls visits result ∧
      AreMade authenticator transport earlier visits ∧
      ended.1 = result.map Answer.records ∧
      ended.2.world.sent = earlier ++ visits.flatMap Visit.sent := by
  rcases exists_isLookUp client session endpoint (batches urls) kept earlier readings
    with ⟨visits, isLookUp, areMade, sent⟩
  refine ⟨visits, _, isLookUp.looksUp, areMade, ?_⟩
  simp only [run, Client.endpoint, found, Action.perform_bind, Action.perform_ofExcept,
    Action.perform_pure]
  rcases performed : (client.lookUpBatches endpoint (batches urls)).perform
      ⟨kept, ⟨earlier, readings⟩⟩ with ⟨_ | records, after⟩
  · rw [performed] at sent
    exact ⟨rfl, sent⟩
  · rw [performed] at sent
    exact ⟨rfl, sent⟩

end Client

end CloudAdmin
