import CloudAdmin.Proofs.Client.Revocation
import CloudAdmin.Proofs.Sandbox.Ledger
import CloudAdmin.Proofs.Sandbox.Records

/-!
# Clients of a sandbox see a ledger

A client that reaches a sandbox and the sandbox together are a finite map from collections and ids
to records. Each call of the client is one step on a ledger that represents what the sandbox holds:
first it is shown for each operation what a client gets and what the sandbox holds then, from this
that the ledger takes a step, and then by induction that it follows any sequence of calls. Main
statement: whatever single records a client adds, reads, replaces and removes in whatever
collections, its calls yield what they yield on the ledger, and the ledger goes on representing the
sandbox.
-/

namespace CloudAdmin.Sandbox

section Operations

variable {World : Type} {supply : TokenSupply} {client : Client World} {sandbox : World → State}
  {endpoint : Endpoint} {style : Style} {path : String}

/-- A client gets the answer that its request is served. -/
theorem perform_execute_of_serve
    (reaches : Reaches supply client.session.authenticator client.session.host sandbox)
    (request : Http.Request) (isResource : IsResource request.method request.url)
    (only : HasOnlyContentType request) {state : SessionState World} {response : Http.Response}
    {after : Contents} (served : serve request (held sandbox state) = (.ok response, after)) :
    ∃ final, (client.execute request).perform state = (.ok response, final) ∧
      held sandbox final = after := by
  rcases perform_execute_of_reaches reaches isResource only state with ⟨answered, kept⟩
  rw [served] at answered kept
  exact ⟨((client.execute request).perform state).2, Prod.ext answered rfl, kept⟩

theorem perform_answer {Result : Type}
    (reaches : Reaches supply client.session.authenticator client.session.host sandbox)
    {request : Http.Request} (isResource : IsResource request.method request.url)
    (only : HasOnlyContentType request) (read : Http.Response → Except ApiError Result)
    {state : SessionState World} {response : Http.Response} {after : Contents}
    (served : serve request (held sandbox state) = (.ok response, after)) :
    ∃ final, (do
        let response ← client.execute request
        Action.ofExcept (read response) : Action World Result).perform state =
          (read response, final) ∧ held sandbox final = after := by
  rcases perform_execute_of_serve reaches request isResource only served
    with ⟨final, executed, kept⟩
  refine ⟨final, ?_, kept⟩
  rw [Action.perform_bind, executed]
  exact Action.perform_ofExcept _ _

variable (reaches : Reaches supply client.session.authenticator client.session.host sandbox)
  (keeps : KeepsRecords endpoint style path) {state : SessionState World} {id : UInt64}
  {record body : Record}

include reaches keeps

theorem perform_get (readsBack : record.toValue.ReadsBack Json.nestingLimit)
    (present : Assoc.find? id ((State.ofContents (held sandbox state)).items path) =
      some record.toValue) :
    ∃ final, (client.get endpoint (Text.decimal id.toNat)).perform state = (.ok record, final) ∧
      held sandbox final = held sandbox state := by
  have read := record_json (.inl rfl) readsBack
  rw [← read]
  exact perform_answer reaches ((keeps.record id.toNat).isResource _)
    (hasOnlyContentType_bare _ _) Http.Response.record (keeps.serve_get present)

theorem perform_get_absent
    (absent : Assoc.find? id ((State.ofContents (held sandbox state)).items path) = none) :
    ∃ final, (client.get endpoint (Text.decimal id.toNat)).perform state =
      (.error .notFound, final) ∧ held sandbox final = held sandbox state :=
  perform_answer reaches ((keeps.record id.toNat).isResource _) (hasOnlyContentType_bare _ _)
    Http.Response.record
    (keeps.serve_absent (endpoint.getRequest (Text.decimal id.toNat)) (.head _) rfl rfl absent)

theorem perform_delete {value : Json.Value}
    (present : Assoc.find? id ((State.ofContents (held sandbox state)).items path) = some value) :
    ∃ final, (client.delete endpoint (Text.decimal id.toNat)).perform state = (.ok (), final) ∧
      held sandbox final = ((State.ofContents (held sandbox state)).remove path id).contents :=
  perform_answer reaches ((keeps.record id.toNat).isResource _) (hasOnlyContentType_bare _ _)
    Http.Response.check (keeps.serve_delete present)

theorem perform_delete_absent
    (absent : Assoc.find? id ((State.ofContents (held sandbox state)).items path) = none) :
    ∃ final, (client.delete endpoint (Text.decimal id.toNat)).perform state =
      (.error .notFound, final) ∧ held sandbox final = held sandbox state :=
  perform_answer reaches ((keeps.record id.toNat).isResource _) (hasOnlyContentType_bare _ _)
    Http.Response.check
    (keeps.serve_absent (endpoint.deleteRequest (Text.decimal id.toNat))
      (.tail _ (.tail _ (.head _))) rfl rfl absent)

theorem perform_add (state : SessionState World)
    (readsBack : body.toValue.ReadsBack Json.nestingLimit)
    (readsBack' : ∀ id, (body.insert "id" (style.idValue id)).toValue.ReadsBack Json.nestingLimit) :
    let before := State.ofContents (held sandbox state)
    let added := body.insert "id" (style.idValue (before.lastId + 1))
    ∃ final, (client.add endpoint body).perform state = (.ok added, final) ∧
      held sandbox final =
        (before.allocate.2.put path (before.lastId + 1) added.toValue).contents := by
  intro before added
  have read : (addItem style path body.fields before).1.toResponse.record = .ok added := by
    cases style <;> first
      | exact record_json (.inl rfl) (readsBack' _)
      | exact record_json (.inr rfl) (readsBack' _)
  rw [← read]
  exact perform_answer reaches (keeps.collection.isResource _)
    (hasOnlyContentType_withJson.mpr (hasOnlyContentType_bare _ _)) Http.Response.record
    (keeps.serve_add readsBack _)

/-- A record that is replaced comes back as it is stored, in the answer or when it is read again. -/
theorem perform_update (readsBack : body.toValue.ReadsBack Json.nestingLimit)
    (readsBack' : (body.insert "id" (style.idValue id)).toValue.ReadsBack Json.nestingLimit)
    {value : Json.Value}
    (present : Assoc.find? id ((State.ofContents (held sandbox state)).items path) = some value) :
    let updated := body.insert "id" (style.idValue id)
    ∃ final, (client.update endpoint (Text.decimal id.toNat) body).perform state =
        (.ok updated, final) ∧
      held sandbox final =
        ((State.ofContents (held sandbox state)).put path id updated.toValue).contents := by
  intro updated
  rcases perform_execute_of_serve reaches (endpoint.updateRequest (Text.decimal id.toNat) body)
    ((keeps.record id.toNat).isResource _)
    (hasOnlyContentType_withJson.mpr (hasOnlyContentType_bare _ _))
    (keeps.serve_update readsBack present) with ⟨middle, executed, kept⟩
  simp only [Client.update, Action.perform_bind, executed, Action.perform_ofExcept]
  by_cases zpa : style = .zpa
  · subst zpa
    have stored : Assoc.find? id ((State.ofContents (held sandbox middle)).items path) =
        some updated.toValue := by
      rw [kept]
      exact (find?_items_put path id).trans (if_pos ⟨rfl, rfl⟩)
    rcases perform_get reaches keeps readsBack' stored with ⟨final, again, same⟩
    refine ⟨final, ?_, same.trans kept⟩
    exact again
  · have brought : (replaceItem style path id (some body.toValue)
        (.ofContents (held sandbox state))).1.toResponse.optionalRecord = .ok (some updated) := by
      cases style with
      | zpa => exact absurd rfl zpa
      | zia => exact optionalRecord_json readsBack'
      | zidentity => exact optionalRecord_json readsBack'
      | zdx => exact optionalRecord_json readsBack'
      | results => exact optionalRecord_json readsBack'
    exact ⟨middle, by simp only [brought, Action.perform_pure], kept⟩

theorem perform_update_absent (readsBack : body.toValue.ReadsBack Json.nestingLimit)
    (absent : Assoc.find? id ((State.ofContents (held sandbox state)).items path) = none) :
    ∃ final, (client.update endpoint (Text.decimal id.toNat) body).perform state =
      (.error .notFound, final) ∧ held sandbox final = held sandbox state := by
  have served := keeps.serve_absent (endpoint.updateRequest (Text.decimal id.toNat) body)
    (.tail _ (.head _)) rfl (readBody_text readsBack) absent
  rcases perform_execute_of_serve reaches (endpoint.updateRequest (Text.decimal id.toNat) body)
    ((keeps.record id.toNat).isResource _)
    (hasOnlyContentType_withJson.mpr (hasOnlyContentType_bare _ _)) served
    with ⟨final, executed, kept⟩
  refine ⟨final, ?_, kept⟩
  simp only [Client.update, Action.perform_bind, executed, Action.perform_ofExcept]
  rfl

end Operations

section Steps

/-- The endpoint of a resource is where a sandbox keeps its collection. -/
theorem keepsRecords_of_isWellPlaced {root : String} {customer : Option String}
    {resource : Resource} {endpoint : Endpoint}
    (origin : Url.IsOrigin (Text.dropTrailing '/' root))
    (plain : ∀ id, customer = some id → Url.IsPlainPath id.toList)
    (wellPlaced : resource.IsWellPlaced)
    (found : resource.endpoint (.gateway root customer) = .ok endpoint) :
    KeepsRecords endpoint resource.scope.style (resource.collection.place customer) := by
  rcases leadsTo_place origin plain wellPlaced.scope wellPlaced.path found with ⟨collection, record⟩
  rcases exists_place wellPlaced.scope plain wellPlaced.path
    with ⟨front, name, -, -, isName, notId, -, placed⟩
  have last : (splitLast (resource.collection.place customer)).2 = String.ofList name := by
    rw [placed, splitLast_append_slash _ isName.noSlash]
  exact {
    collection
    record
    styled := wellPlaced.styled customer
    recordStyled := wellPlaced.recordStyled customer
    free := last ▸ isName.free
    notId := last ▸ notId }

variable {World : Type} {supply : TokenSupply} {client : Client World} {sandbox : World → State}
  {root : String} {customer : Option String}

/-- Whether a call of a client is a step on a ledger that represents what the sandbox holds. No id
is given out but for a record that is added. -/
def IsStep (client : Client World) (sandbox : World → State) (customer : Option String)
    (call : RecordCall) (ledger : Ledger) (state : SessionState World) : Prop :=
  ∃ answer final after, (client.run call.toCall).perform state = (answer, final) ∧
    Ledger.Yields call ledger answer after ∧ Represents customer after (held sandbox final) ∧
      (held sandbox final).lastId.toNat ≤
        (held sandbox state).lastId.toNat + [call].countP RecordCall.isAdd

variable {resource : Resource} {endpoint : Endpoint} {ledger : Ledger} {state : SessionState World}
  {id : UInt64} {body : Record}
  (reaches : Reaches supply client.session.authenticator client.session.host sandbox)
  (scope : resource.scope ∈ Scope.administered)
  (found : resource.endpoint client.routes = .ok endpoint)
  (keeps : KeepsRecords endpoint resource.scope.style (resource.collection.place customer))
  (represents : Represents customer ledger (held sandbox state))

include reaches scope found keeps represents

theorem isStep_get : IsStep client sandbox customer (.get resource id) ledger state := by
  have stored := represents.stored resource.collection scope id
  cases present : ledger.record? resource.collection id with
  | some record =>
      rw [present] at stored
      rcases perform_get reaches keeps (represents.readBack _ _ _ present) stored
        with ⟨final, performed, same⟩
      refine ⟨_, final, ledger, ?_, .got present, same ▸ represents, same ▸ Nat.le_refl _⟩
      simp only [RecordCall.toCall, Client.run, Client.endpoint, Action.perform_bind,
        Action.perform_ofExcept, found, performed, Action.perform_pure]
  | none =>
      rw [present] at stored
      rcases perform_get_absent reaches keeps stored with ⟨final, performed, same⟩
      refine ⟨_, final, ledger, ?_, .notFound rfl present, same ▸ represents, same ▸ Nat.le_refl _⟩
      simp only [RecordCall.toCall, Client.run, Client.endpoint, Action.perform_bind,
        Action.perform_ofExcept, found, performed]

theorem isStep_delete : IsStep client sandbox customer (.delete resource id) ledger state := by
  have stored := represents.stored resource.collection scope id
  cases present : ledger.record? resource.collection id with
  | some record =>
      rw [present] at stored
      rcases perform_delete reaches keeps stored with ⟨final, performed, removed⟩
      refine ⟨_, final, ledger.erase resource.collection id, ?_, .deleted present, ?_, ?_⟩
      · simp only [RecordCall.toCall, Client.run, Client.endpoint, Action.perform_bind,
          Action.perform_ofExcept, found, performed, Action.perform_pure]
      · rw [removed]
        exact Represents.remove represents scope
      · rw [removed]
        exact Nat.le_refl _
  | none =>
      rw [present] at stored
      rcases perform_delete_absent reaches keeps stored with ⟨final, performed, same⟩
      refine ⟨_, final, ledger, ?_, .notFound rfl present, same ▸ represents, same ▸ Nat.le_refl _⟩
      simp only [RecordCall.toCall, Client.run, Client.endpoint, Action.perform_bind,
        Action.perform_ofExcept, found, performed]

theorem isStep_update (readsBack : body.toValue.ReadsBack Json.nestingLimit) :
    IsStep client sandbox customer (.update resource id body) ledger state := by
  have stored := represents.stored resource.collection scope id
  cases present : ledger.record? resource.collection id with
  | some record =>
      rw [present] at stored
      have readsBack' := resource.collection.readsBack_withId readsBack id
      rw [Collection.withId, ← Scope.idValue_style] at readsBack'
      rcases perform_update reaches keeps readsBack readsBack' stored
        with ⟨final, performed, replaced⟩
      rw [Scope.idValue_style] at performed replaced readsBack'
      refine ⟨_, final, _, ?_, .updated present, ?_, ?_⟩
      · simp only [RecordCall.toCall, Client.run, Client.endpoint, Action.perform_bind,
          Action.perform_ofExcept, found, performed, Action.perform_pure]
        rfl
      · rw [replaced]
        exact Represents.put represents scope readsBack'
          (represents.counted id (ledger.used present))
      · rw [replaced]
        exact Nat.le_refl _
  | none =>
      rw [present] at stored
      rcases perform_update_absent reaches keeps readsBack stored with ⟨final, performed, same⟩
      refine ⟨_, final, ledger, ?_, .notFound rfl present, same ▸ represents, same ▸ Nat.le_refl _⟩
      simp only [RecordCall.toCall, Client.run, Client.endpoint, Action.perform_bind,
        Action.perform_ofExcept, found, performed]

theorem isStep_add (readsBack : body.toValue.ReadsBack Json.nestingLimit)
    (room : (held sandbox state).lastId.toNat + 1 < UInt64.size) :
    IsStep client sandbox customer (.add resource body) ledger state := by
  have readsBack' (id : UInt64) := resource.collection.readsBack_withId readsBack id
  have next : ((held sandbox state).lastId + 1).toNat = (held sandbox state).lastId.toNat + 1 := by
    rw [UInt64.toNat_add]
    exact Nat.mod_eq_of_lt room
  have grows : (held sandbox state).lastId ≤ (held sandbox state).lastId + 1 := by
    rw [UInt64.le_iff_toNat_le, next]
    exact Nat.le_succ _
  have new : (held sandbox state).lastId + 1 ∉ ledger.given := by
    intro given
    have atMost := UInt64.le_iff_toNat_le.mp (represents.counted _ given)
    omega
  have written (id : UInt64) :
      (body.insert "id" (resource.scope.style.idValue id)).toValue.ReadsBack
        Json.nestingLimit := by
    rw [Scope.idValue_style]
    exact readsBack' id
  rcases perform_add reaches keeps state readsBack written with ⟨final, performed, added⟩
  simp only [Scope.idValue_style] at performed added
  refine ⟨_, final, _, ?_, .added new, ?_, ?_⟩
  · simp only [RecordCall.toCall, Client.run, Client.endpoint, Action.perform_bind,
      Action.perform_ofExcept, found, performed, Action.perform_pure]
    rfl
  · rw [added]
    exact Represents.put (Represents.allocate represents grows) scope (readsBack' _)
      (UInt64.le_refl _)
  · rw [added]
    exact Nat.le_of_eq next

end Steps

section Runs

variable {World : Type} {supply : TokenSupply} {client : Client World} {sandbox : World → State}
  {root : String} {customer : Option String}

/-- Whether a call may be made by a client: it is about a resource that the client has an endpoint
for, and the text of the record that it sends is read back. -/
structure IsMade (routes : Routes) (call : RecordCall) : Prop where
  administered : call.resource.IsAdministered
  hasEndpoint : ∃ endpoint, call.resource.endpoint routes = .ok endpoint
  readBack : ∀ body, call.body? = some body → body.toValue.ReadsBack Json.nestingLimit

/-- Every call of a client is a step on the ledger that represents what the sandbox holds. -/
theorem isStep_of_isMade
    (reaches : Reaches supply client.session.authenticator client.session.host sandbox)
    (gateway : client.routes = .gateway root customer)
    (origin : Url.IsOrigin (Text.dropTrailing '/' root))
    (plain : ∀ id, customer = some id → Url.IsPlainPath id.toList) {call : RecordCall}
    (made : IsMade client.routes call) {ledger : Ledger} {state : SessionState World}
    (represents : Represents customer ledger (held sandbox state))
    (room : (held sandbox state).lastId.toNat + [call].countP RecordCall.isAdd < UInt64.size) :
    IsStep client sandbox customer call ledger state := by
  rcases made with ⟨administered, ⟨endpoint, found⟩, readBack⟩
  have wellPlaced := administered.isWellPlaced
  have keeps := keepsRecords_of_isWellPlaced origin plain wellPlaced (gateway ▸ found)
  cases call with
  | add resource body =>
      exact isStep_add reaches wellPlaced.scope found keeps represents (readBack body rfl) room
  | get resource id => exact isStep_get reaches wellPlaced.scope found keeps represents
  | update resource id body =>
      exact isStep_update reaches wellPlaced.scope found keeps represents (readBack body rfl)
  | delete resource id => exact isStep_delete reaches wellPlaced.scope found keeps represents

/-- Whatever single records a client adds, reads, replaces and removes, its calls yield what they
yield on a ledger that represents what the sandbox holds, and the ledger that they lead to
represents what the sandbox holds then. -/
theorem runAll_follows
    (reaches : Reaches supply client.session.authenticator client.session.host sandbox)
    (gateway : client.routes = .gateway root customer)
    (origin : Url.IsOrigin (Text.dropTrailing '/' root))
    (plain : ∀ id, customer = some id → Url.IsPlainPath id.toList) (calls : List RecordCall)
    (made : ∀ call ∈ calls, IsMade client.routes call) (state : SessionState World)
    (ledger : Ledger)
    (represents : Represents customer ledger (held sandbox state))
    (room : (held sandbox state).lastId.toNat + calls.countP RecordCall.isAdd < UInt64.size) :
    ∃ after,
      Ledger.Follows calls ledger (client.runAll (calls.map RecordCall.toCall) state).1 after ∧
      Represents customer after
        (held sandbox (client.runAll (calls.map RecordCall.toCall) state).2) := by
  induction calls generalizing state ledger with
  | nil => exact ⟨ledger, .nil, represents⟩
  | cons call calls ih =>
      rw [← List.singleton_append, List.countP_append] at room
      rcases isStep_of_isMade reaches gateway origin plain (made call (List.mem_cons_self ..))
        represents (by omega) with ⟨answer, middle, next, performed, yields, represents', bound⟩
      rcases ih (fun later member => made later (List.mem_cons_of_mem _ member)) middle next
        represents' (by omega) with ⟨after, follows, represented⟩
      refine ⟨after, ?_, ?_⟩
      · simp only [List.map_cons, Client.runAll, performed]
        exact .cons yields follows
      · simp only [List.map_cons, Client.runAll, performed]
        exact represented

/-- The client on this machine, with the id of its customer. -/
def clientOf (customer : String) : Client State :=
  ⟨⟨direct countingSupply 0 0, localCustomer⟩, .gateway "http://127.0.0.1:3000" (some customer), 5⟩

/-- The segment groups of a customer. -/
def segmentGroups : Resource :=
  Zpa.managed "segmentGroup"

theorem segmentGroups_scope : segmentGroups.collection.scope = .management "v1" :=
  rfl

theorem isAdministered_segmentGroups : segmentGroups.IsAdministered :=
  have member : (⟨segmentGroups, "segment_groups", "segment_group", Verb.common⟩ : Listing) ∈
      Product.zpa.listings := .tail _ (.head _)
  .listed (.tail _ (.head _)) member

/-- A segment group with a name. -/
def namedGroup (name : String) : Record :=
  ⟨[("name", .string name)]⟩

theorem readsBack_namedGroup (name : String) :
    (namedGroup name).toValue.ReadsBack Json.nestingLimit :=
  .object (List.pairwise_singleton ..) fun _ member => List.mem_singleton.mp member ▸ .string _

/-- A group that is added, renamed, looked at and removed, and then is there no more. -/
def lifeOfGroup : List RecordCall :=
  [.add segmentGroups (namedGroup "a"), .update segmentGroups 1 (namedGroup "b"),
    .get segmentGroups 1, .delete segmentGroups 1, .get segmentGroups 1]

theorem runAll_follows_lifeOfGroup :
    ∃ after, Ledger.Follows lifeOfGroup .empty
        ((clientOf "42").runAll (lifeOfGroup.map RecordCall.toCall) ⟨none, .empty⟩).1 after ∧
      Represents (some "42") after
        (held id
          ((clientOf "42").runAll (lifeOfGroup.map RecordCall.toCall) ⟨none, .empty⟩).2) := by
  have origin : Url.IsOrigin (Text.dropTrailing '/' "http://127.0.0.1:3000") := by
    have parsed : (Url.parse
        (Text.dropTrailing '/' "http://127.0.0.1:3000" ++ "/")).toOption =
          some ⟨"http".toList, some ⟨[], .ipv4 0x7F000001, some 3000⟩, .segments [[]], none,
            none⟩ := by
      decide +kernel
    exact ⟨_, eq_ok_of_toOption parsed, by decide, rfl, rfl, rfl⟩
  have plain : ∀ id, some "42" = some id → Url.IsPlainPath id.toList := by
    rintro id ⟨⟩
    exact Url.isPlainPath_of_isWrittenPath (by decide)
  have made : ∀ call ∈ lifeOfGroup, IsMade (clientOf "42").routes call := by
    intro call member
    simp only [lifeOfGroup, List.mem_cons, List.not_mem_nil, or_false] at member
    rcases member with rfl | rfl | rfl | rfl | rfl
    · exact ⟨isAdministered_segmentGroups, ⟨_, rfl⟩, by rintro _ ⟨⟩; exact readsBack_namedGroup _⟩
    · exact ⟨isAdministered_segmentGroups, ⟨_, rfl⟩, by rintro _ ⟨⟩; exact readsBack_namedGroup _⟩
    · exact ⟨isAdministered_segmentGroups, ⟨_, rfl⟩, nofun⟩
    · exact ⟨isAdministered_segmentGroups, ⟨_, rfl⟩, nofun⟩
    · exact ⟨isAdministered_segmentGroups, ⟨_, rfl⟩, nofun⟩
  have represents : Represents (some "42") .empty (held id (⟨none, .empty⟩ : SessionState State)) :=
    ⟨fun _ _ _ => rfl, nofun, nofun⟩
  exact runAll_follows (reaches_direct isTokenText_countingSupply accepts_localCustomer 0) rfl
    origin plain lifeOfGroup made ⟨none, .empty⟩ .empty represents (by decide)

/-- The id that the first of some answers gives a record, if this is a text. -/
def firstId? : List (Except ApiError Answer) → Option String
  | .ok (.record record) :: _ => record.string? "id"
  | _ => none

theorem firstId?_of_follows {body : Record} {calls : List RecordCall} {ledger after : Ledger}
    {answers : List (Except ApiError Answer)}
    (follows : Ledger.Follows (.add segmentGroups body :: calls) ledger answers after) :
    ∃ id, firstId? answers = some id := by
  cases follows with
  | cons first rest =>
      cases first with
      | @added _ _ id _ new =>
          refine ⟨Text.decimal id.toNat, ?_⟩
          simp [firstId?, Record.string?, Collection.withId, segmentGroups_scope, Scope.idValue,
            Json.Value.toString?]
      | notFound named absent => exact nomatch named

/-- The id of a customer is written into URLs as it is. One with a question mark ends the path, so
that a group cannot be added. -/
theorem not_follows_of_query_in_customer :
    Accepts countingSupply localCustomer 0 ∧
      ¬ ∃ after, Ledger.Follows [.add segmentGroups (namedGroup "a")] .empty
        ((clientOf "7?x").runAll
          ([.add segmentGroups (namedGroup "a")].map RecordCall.toCall)
            ⟨none, .empty⟩).1 after := by
  refine ⟨accepts_localCustomer, ?_⟩
  rintro ⟨after, follows⟩
  have refused : firstId? ((clientOf "7?x").runAll
      ([.add segmentGroups (namedGroup "a")].map RecordCall.toCall) ⟨none, .empty⟩).1 = none := by
    decide +kernel
  rcases firstId?_of_follows follows with ⟨id, added⟩
  exact nomatch refused.symm.trans added

end Runs

end CloudAdmin.Sandbox
