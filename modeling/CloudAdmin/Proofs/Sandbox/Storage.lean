import CloudAdmin.Proofs.Sandbox.Direct
import CloudAdmin.Proofs.Sandbox.History
import CloudAdmin.Proofs.Sandbox.Pages
import Mathlib.Data.Set.List

/-!
# What a sandbox stores

A request does one of four things to the records of a sandbox: nothing, or it adds, replaces or
removes one. What is stored thus has been added or has replaced something. What is added is checked
to be a record and gets its id in the style of its collection. What replaces a record is not
checked, and its id is in the style of the path below the collection. Main statement: after any
history, whatever is stored is a record with its id in the style of its collection, unless a request
replaced it by what is none or wrote the id in another style; without such requests, the lists of a
collection are pages of records.
-/

namespace CloudAdmin.Sandbox

section Storing

namespace State

/-- Whether a value is stored under an id of a collection. -/
def Stores (path : String) (id : UInt64) (value : Json.Value) (state : State) : Prop :=
  ∃ items, (path, items) ∈ state.store ∧ (id, value) ∈ items

variable {state : State} {path other : String} {id key : UInt64} {value found : Json.Value}

theorem stores_of_mem_items (member : (id, value) ∈ state.items path) :
    state.Stores path id value := by
  rw [items, items?] at member
  cases used : Assoc.find? path state.store with
  | none => simp [used] at member
  | some items => exact ⟨items, Assoc.mem_of_find? used, by simpa [used] using member⟩

theorem stores_setItems {items : Items}
    (stored : (state.setItems path items).Stores other id value) :
    other = path ∧ (id, value) ∈ items ∨ state.Stores other id value := by
  rcases stored with ⟨present, collection, member⟩
  rcases Assoc.mem_insert collection with same | earlier
  · rcases Prod.mk.inj same with ⟨rfl, rfl⟩
    exact .inl ⟨rfl, member⟩
  · exact .inr ⟨present, earlier, member⟩

theorem stores_put (stored : (state.put path id value).Stores other key found) :
    (other = path ∧ key = id ∧ found = value) ∨ state.Stores other key found := by
  rcases stores_setItems stored with ⟨rfl, member⟩ | earlier
  · rcases Assoc.mem_insert member with same | earlier
    · exact .inl ⟨rfl, Prod.mk.inj same⟩
    · exact .inr (stores_of_mem_items earlier)
  · exact .inr earlier

theorem stores_remove (stored : (state.remove path id).Stores other key found) :
    state.Stores other key found := by
  rcases stores_setItems stored with ⟨rfl, member⟩ | earlier
  · exact stores_of_mem_items ((Assoc.erase_sublist id _).subset member)
  · exact earlier

end State

end Storing

section Effects

/-- What a request with a good token may do: nothing, or a record is added, replaced or removed. -/
inductive Effect (request : Request) (state : State) : Reply × State → Prop where
  | kept (reply : Reply) : Effect request state (reply, state)
  | added {fields : Json.Fields} (isPost : request.method = "POST")
      (isCollection : isId (splitLast request.place).2 = false)
      (read : readBody request.body = .ok (some (.object fields))) :
      Effect request state (addItem (Style.ofPath request.place) request.place fields state)
  | replaced {path : String} {id : UInt64} {body : Option Json.Value}
      (isPut : request.method = "PUT") (names : request.Names path id)
      (read : readBody request.body = .ok body) :
      Effect request state (replaceItem (Style.ofPath request.place) path id body state)
  | removed {path : String} {id : UInt64} (isDelete : request.method = "DELETE")
      (names : request.Names path id) :
      Effect request state (.bare 204, state.remove path id)

theorem Handled.effect {request : Request} {state : State} {outcome : Reply × State}
    (handled : Handled request state outcome) : Effect request state outcome := by
  cases handled with
  | failed reply failure letIn => exact .kept _
  | special read found => exact .kept _
  | shown value isGet names => exact .kept _
  | listed values isGet isCollection => exact .kept _
  | added isPost isCollection read ordinary => exact .added isPost isCollection read
  | replaced isPut names read present => exact .replaced isPut names read
  | removed isDelete names present => exact .removed isDelete names

/-- A request with a good token has one of the effects. -/
theorem effect_handleAuthorized (request : Request) (state : State) :
    Effect request state (handleAuthorized request state) :=
  (handled_handleAuthorized request state).effect

/-- A request that is not admitted to the records leaves them, and the last id. -/
theorem handle_of_not_admitted (supply : TokenSupply) {request : Request} {state : State}
    (notAdmitted : ¬(request.IsForResource ∧ isAuthorized request state = true)) :
    (handle supply request state).2.store = state.store ∧
      (handle supply request state).2.lastId = state.lastId := by
  rcases exists_goesTo supply request with ⟨handler, goes, routed⟩
  rw [handle_snd, routed]
  cases goes with
  | login flow isLogin =>
      cases isSettled_login supply flow request with
      | refused reply failure always => simp [always]
      | accepted always => simp [always, State.issue]
  | logout isLogout =>
      unfold ziaLogout
      split
      · exact ⟨rfl, rfl⟩
      · split <;> exact ⟨rfl, rfl⟩
  | revocation isRevocation => exact ⟨rfl, rfl⟩
  | count => exact ⟨rfl, rfl⟩
  | refusal allowed => exact ⟨rfl, rfl⟩
  | resource isForResource =>
      have unauthorized : isAuthorized request state = false :=
        Bool.eq_false_iff.mpr fun authorized => notAdmitted ⟨isForResource, authorized⟩
      simp [handleResource, unauthorized]

/-- The records stay as they are, or a request for a resource has its effect. -/
theorem store_handle (supply : TokenSupply) (request : Request) (state : State) :
    (handle supply request state).2.store = state.store ∨
      (handle supply request state).1.status = (handleAuthorized request state).1.status ∧
        (handle supply request state).2 = (handleAuthorized request state).2 := by
  by_cases admitted : request.IsForResource ∧ isAuthorized request state = true
  · right
    rw [handle_snd, status_handle, route_of_isForResource admitted.1, handleResource,
      if_pos admitted.2]
    exact ⟨rfl, rfl⟩
  · exact .inl (handle_of_not_admitted supply admitted).1

end Effects

section Keeping

/-- Whether a value is a record with its id in a style. -/
def IsRecordOf (style : Style) (id : UInt64) (value : Json.Value) : Prop :=
  ∃ record, Record.ofValue value = .ok record ∧ record.find? "id" = some (style.idValue id)

/-- Whether an event replaces a record by what is none, or writes its id in another style than that
of its collection. -/
structure Event.Spoils (path : String) (id : UInt64) (event : Event) : Prop where
  isPut : event.request.method = "PUT"
  names : event.request.Names path id
  success : event.reply.status < 300
  careless : (∃ value, readBody event.request.body = .ok (some value) ∧ value.toObject? = none) ∨
    (Style.ofPath event.request.place).idValue id ≠ (Style.ofPath path).idValue id

theorem isRecordOf_withId (style : Style) (id : UInt64) (fields : Json.Fields) :
    IsRecordOf style id (withId style id (.object fields)) :=
  ⟨_, rfl, Assoc.find?_insert_self ..⟩

variable {supply : TokenSupply} {request : Request} {state : State} {path : String} {id : UInt64}
  {value : Json.Value}

theorem isRecordOf_replaced {body : Option Json.Value} (event : Event)
    (isPut : event.request.method = "PUT") (names : event.request.Names path id)
    (success : event.reply.status < 300) (read : readBody event.request.body = .ok body) :
    IsRecordOf (Style.ofPath path) id
        (withId (Style.ofPath event.request.place) id (body.getD (.object []))) ∨
      event.Spoils path id := by
  by_cases styled : (Style.ofPath event.request.place).idValue id = (Style.ofPath path).idValue id
  · have sameId (fields : Json.Fields) :
        withId (Style.ofPath event.request.place) id (.object fields) =
          withId (Style.ofPath path) id (.object fields) := by
      simp [withId, styled]
    cases body with
    | none =>
        left
        rw [Option.getD_none, sameId]
        exact isRecordOf_withId ..
    | some value =>
        cases object : value.toObject? with
        | none => exact .inr ⟨isPut, names, success, .inl ⟨value, read, object⟩⟩
        | some fields =>
            cases value <;> cases object
            left
            rw [Option.getD_some, sameId]
            exact isRecordOf_withId ..
  · exact .inr ⟨isPut, names, success, .inr styled⟩

/-- What is stored after a request was stored before it, is a record, or the request spoils it. -/
theorem stores_handle (stored : (handle supply request state).2.Stores path id value) :
    state.Stores path id value ∨ IsRecordOf (Style.ofPath path) id value ∨
      (Event.mk request (handle supply request state).1).Spoils path id := by
  rcases store_handle supply request state with kept | ⟨status, after⟩
  · left
    rwa [State.Stores, kept] at stored
  · rw [after] at stored
    generalize replied : (handle supply request state).1 = reply at status
    have effect := effect_handleAuthorized request state
    generalize handleAuthorized request state = outcome at *
    cases effect with
    | kept reply => exact .inl stored
    | added isPost isCollection read =>
        rcases State.stores_put stored with ⟨rfl, rfl, rfl⟩ | earlier
        · exact .inr (.inl (isRecordOf_withId ..))
        · exact .inl earlier
    | replaced isPut names read =>
        rcases State.stores_put stored with ⟨rfl, rfl, rfl⟩ | earlier
        · have success : reply.status < 300 := by
            rw [status]
            exact status_replaceItem ..
          exact .inr (isRecordOf_replaced ⟨request, reply⟩ isPut names success read)
        · exact .inl earlier
    | removed isDelete names => exact .inl (State.stores_remove stored)

end Keeping

section Listing

namespace Style

/-- The key under which the lists of a style have their records, unless they are bare arrays. -/
def recordsKey? : Style → Option String
  | .zia => none
  | .zpa => some "list"
  | .zidentity => some "records"
  | .zdx => some "items"
  | .results => some "results"

/-- The records in a list of a style, as a client reads them. -/
def readList (answer : Json.Value) (style : Style) : Except ApiError (List Record) :=
  match style.recordsKey? with
  | none => Page.arrayItems answer
  | some key => Page.itemsAt key answer

end Style

/-- The values in a list of a style, whatever they are. -/
def Style.listed? (answer : Json.Value) (style : Style) : Option (List Json.Value) :=
  match style.recordsKey? with
  | none => answer.toArray?
  | some key =>
      match answer.field? key with
      | none => some []
      | some items => items.toArray?

/-- The values that the list of a style shows: a page, or all of them. -/
def Style.shown (request : Request) (values : List Json.Value) (style : Style) :
    List Json.Value :=
  let size := positiveParameter style.sizeName style.usualSize request
  match style with
  | .zia | .zpa => numberedPage (positiveParameter "page" 1 request) size values
  | .zidentity | .zdx => slice (numberParameter "offset" 0 request) size values
  | .results => values

theorem listed?_listAnswer (style : Style) (path : String) (request : Request)
    (values : List Json.Value) :
    style.listed? (listAnswer style path request values) = some (style.shown request values) := by
  cases style with
  | zia => rfl
  | zpa =>
      simp only [Style.listed?, Style.recordsKey?, listAnswer, field?_countedPage_list]
      generalize page : numberedPage _ _ values = onPage
      have same : Style.shown request values .zpa = onPage := page
      cases onPage with
      | nil => simp [same]
      | cons first rest => simp [same, Json.Value.toArray?]
  | zidentity =>
      simp [Style.listed?, Style.recordsKey?, listAnswer, linkedPage, Json.Value.ofFields,
        Json.Value.field?, Json.Value.toArray?, Assoc.find?_ofList, Style.shown, Style.sizeName,
        Style.usualSize]
  | zdx =>
      simp [Style.listed?, Style.recordsKey?, listAnswer, offsetPage, Json.Value.ofFields,
        Json.Value.field?, Json.Value.toArray?, Assoc.find?_ofList, Style.shown, Style.sizeName,
        Style.usualSize]
  | results =>
      simp [Style.listed?, Style.recordsKey?, listAnswer, wholeList, Json.Value.ofFields,
        Json.Value.field?, Json.Value.toArray?, Assoc.find?_ofList, Style.shown]

/-- The list of some values is a part of them in one piece. -/
theorem Style.exists_shown_eq (style : Style) (request : Request) (values : List Json.Value) :
    ∃ start count, style.shown request values = (values.drop start).take count := by
  cases style with
  | zia | zpa | zidentity | zdx => exact ⟨_, _, rfl⟩
  | results => exact ⟨0, values.length, by simp [shown]⟩

theorem readList_of_listed? {style : Style} {answer : Json.Value} {records : List Record}
    (listed : style.listed? answer = some (records.map Record.toValue)) :
    style.readList answer = .ok records := by
  have isArray {value : Json.Value} (found : value.toArray? = some (records.map Record.toValue)) :
      value = .array (records.map Record.toValue) := by
    cases value <;> cases found
    rfl
  unfold Style.listed? at listed
  unfold Style.readList
  cases kept : style.recordsKey? with
  | none =>
      rw [kept] at listed
      rw [isArray listed]
      exact Record.mapM_ofValue_map_toValue records
  | some key =>
      rw [kept] at listed
      cases found : answer.field? key with
      | none =>
          simp only [found, Option.some.injEq] at listed
          rw [List.map_eq_nil_iff.mp listed.symm]
          simp [Page.itemsAt, found]
      | some items =>
          simp only [found] at listed
          exact itemsAt_of_array records (by rw [found, isArray listed])

/-- The list of some records is a page of some of them. -/
theorem readList_listAnswer (style : Style) (path : String) (request : Request)
    (records : List Record) :
    ∃ shown, style.readList (listAnswer style path request (records.map Record.toValue)) =
      .ok shown ∧ shown.Sublist records := by
  have listed := listed?_listAnswer style path request (records.map Record.toValue)
  rcases style.exists_shown_eq request (records.map Record.toValue) with ⟨start, count, shown⟩
  rw [shown, slice_map_toValue] at listed
  exact ⟨_, readList_of_listed? listed, (List.take_sublist ..).trans (List.drop_sublist ..)⟩

variable {request : Request} {state : State}

/-- Whether a request asks for the list of a collection. -/
structure Request.AsksForList (request : Request) : Prop where
  isForResource : request.IsForResource
  isGet : request.method = "GET"
  isCollection : isId (splitLast request.place).2 = false
  ordinary : ∃ body, readBody request.body = .ok body ∧ special? "GET" request.place body = none

theorem handle_list (supply : TokenSupply) (asks : request.AsksForList)
    (authorized : isAuthorized request state = true) :
    handle supply request state =
      (.json 200 (listAnswer (Style.ofPath request.place) request.place request
        (searchItems request.place request state)), state) := by
  rcases asks.ordinary with ⟨body, read, ordinary⟩
  simp only [handle, route_of_isForResource asks.isForResource, handleResource, authorized, if_true,
    handleAuthorized, read, asks.isGet]
  rw [Request.place] at ordinary
  simp only [ordinary]
  have isCollection := asks.isCollection
  rw [Request.place] at isCollection
  simp [isCollection, handleCollection, asks.isGet, Request.place]

theorem exists_map_toValue {values : List Json.Value}
    (records : ∀ value ∈ values, ∃ record, Record.ofValue value = .ok record) :
    ∃ records : List Record, values = records.map Record.toValue := by
  have inRange : values ∈ Set.range (List.map Record.toValue) := by
    rw [Set.range_list_map]
    intro value member
    rcases records value member with ⟨record, read⟩
    cases value <;> cases read
    exact ⟨_, rfl⟩
  rcases inRange with ⟨found, rfl⟩
  exact ⟨found, rfl⟩

/-- If all that is stored in a collection are records, then its list is a page of them. -/
theorem list_of_forall_stored (supply : TokenSupply) (asks : request.AsksForList)
    (authorized : isAuthorized request state = true)
    (records : ∀ id value, state.Stores request.place id value →
      ∃ record, Record.ofValue value = .ok record) :
    ∃ answer shown, handle supply request state = (.json 200 answer, state) ∧
      (Style.ofPath request.place).readList answer = .ok shown ∧
      ∀ record ∈ shown, ∃ id, state.Stores request.place id record.toValue := by
  have stored : ∀ value ∈ searchItems request.place request state,
      ∃ id, state.Stores request.place id value := by
    intro value member
    rcases List.mem_map.mp (List.mem_filter.mp member).1 with ⟨⟨id, value⟩, inItems, rfl⟩
    exact ⟨id, State.stores_of_mem_items inItems⟩
  rcases exists_map_toValue fun value member =>
    (stored value member).elim fun id present => records id value present with ⟨found, values⟩
  rcases readList_listAnswer (Style.ofPath request.place) request.place request found
    with ⟨shown, read, sublist⟩
  rw [← values] at read
  refine ⟨_, shown, handle_list supply asks authorized, read, fun record member => ?_⟩
  apply stored
  rw [values]
  exact List.mem_map_of_mem (sublist.subset member)

end Listing

/-- After any history, whatever is stored under an id is a record with this id in the style of its
collection, unless it was spoiled by a replacement. The list of a collection in which nothing was
spoiled is a page of records that are stored in it. -/
theorem stores_records_unless_spoiled (supply : TokenSupply) (requests : List Request) :
    let past := run supply requests .empty
    (∀ path id value, past.2.Stores path id value →
      IsRecordOf (Style.ofPath path) id value ∨ ∃ event ∈ past.1, event.Spoils path id) ∧
    ∀ request : Request, request.AsksForList → isAuthorized request past.2 = true →
      (∀ event ∈ past.1, ∀ id, ¬event.Spoils request.place id) →
        ∃ answer shown, handle supply request past.2 = (.json 200 answer, past.2) ∧
          (Style.ofPath request.place).readList answer = .ok shown ∧
          ∀ record ∈ shown, ∃ id, past.2.Stores request.place id record.toValue := by
  intro past
  have stored : ∀ path id value, past.2.Stores path id value →
      IsRecordOf (Style.ofPath path) id value ∨ ∃ event ∈ past.1, event.Spoils path id := by
    refine run_induction supply (fun history state => ∀ path id value,
      state.Stores path id value → IsRecordOf (Style.ofPath path) id value ∨
        ∃ event ∈ history, event.Spoils path id) ?_ ?_ requests
    · rintro path id value ⟨items, none, -⟩
      cases none
    · intro history state request kept path id value stored
      -- What an earlier request spoiled stays so: its event is still in the history.
      rcases stores_handle stored with earlier | isRecord | spoils
      · rcases kept path id value earlier with isRecord | ⟨event, member, spoils⟩
        · exact .inl isRecord
        · exact .inr ⟨event, List.mem_append_left _ member, spoils⟩
      · exact .inl isRecord
      · exact .inr ⟨_, List.mem_append_right _ (.head _), spoils⟩
  refine ⟨stored, fun request asks authorized unspoiled => ?_⟩
  apply list_of_forall_stored supply asks authorized
  intro id value present
  rcases stored _ _ _ present with ⟨record, read, -⟩ | ⟨event, member, spoils⟩
  · exact ⟨record, read⟩
  · exact absurd spoils (unspoiled event member id)

/-- A request of the customer who has logged in, to the labels or to one of them. -/
def labelRequest (method path body : String) : Request :=
  ⟨method, path, [], [("authorization", "Bearer " ++ countingSupply 0)], body⟩

theorem asksForList_labels : (labelRequest "GET" "/zia/api/v1/labels" "").AsksForList :=
  ⟨.inl (by decide +kernel), rfl, by decide +kernel, none, rfl, by decide +kernel⟩

/-- The list of the labels is a page of records after one was added. -/
theorem list_of_one_label :
    let past := run countingSupply
      [gatewayEntry, labelRequest "POST" "/zia/api/v1/labels" "\x7b\"name\":\"a\"\x7d"] .empty
    ∃ answer shown, handle countingSupply (labelRequest "GET" "/zia/api/v1/labels" "") past.2 =
        (.json 200 answer, past.2) ∧
      (Style.ofPath "/zia/api/v1/labels").readList answer = .ok shown ∧
      ∀ record ∈ shown, ∃ id, past.2.Stores "/zia/api/v1/labels" id record.toValue := by
  intro past
  have posts : past.1.all (·.request.method == "POST") = true := by decide +kernel
  have unspoiled : ∀ event ∈ past.1, ∀ id, ¬event.Spoils "/zia/api/v1/labels" id := by
    intro event member id spoils
    have isPost := List.all_eq_true.mp posts event member
    rw [spoils.isPut] at isPost
    exact absurd isPost (by decide)
  exact (stores_records_unless_spoiled countingSupply _).2 _ asksForList_labels
    (by decide +kernel) unspoiled

/-- A label can be replaced by what is no record, and the list of the labels cannot be read then. -/
theorem list_unreadable_after_put :
    let past := run countingSupply
      [gatewayEntry, labelRequest "POST" "/zia/api/v1/labels" "\x7b\"name\":\"a\"\x7d",
        labelRequest "PUT" "/zia/api/v1/labels/1" "[1]"] .empty
    ∃ value answer, past.2.Stores "/zia/api/v1/labels" 1 value ∧
      ¬IsRecordOf (Style.ofPath "/zia/api/v1/labels") 1 value ∧
      (handle countingSupply (labelRequest "GET" "/zia/api/v1/labels" "") past.2).1 =
        .json 200 answer ∧
      ∀ records, (Style.ofPath "/zia/api/v1/labels").readList answer ≠ .ok records := by
  intro past
  have replaced : (past.2.items "/zia/api/v1/labels").any
      (fun item => item.1 == 1 && item.2.toObject?.isNone) = true := by decide +kernel
  have listed := handle_list countingSupply asksForList_labels
    (show isAuthorized _ past.2 = true by decide +kernel)
  have unreadable : ((Style.ofPath "/zia/api/v1/labels").readList (listAnswer
      (Style.ofPath "/zia/api/v1/labels") "/zia/api/v1/labels"
      (labelRequest "GET" "/zia/api/v1/labels" "")
      (searchItems "/zia/api/v1/labels" (labelRequest "GET" "/zia/api/v1/labels" "")
        past.2))).toOption.isNone = true := by
    decide +kernel
  rcases List.any_eq_true.mp replaced with ⟨⟨id, value⟩, member, found⟩
  simp only [Bool.and_eq_true, beq_iff_eq, Option.isNone_iff_eq_none] at found
  rcases found with ⟨rfl, noObject⟩
  refine ⟨value, _, State.stores_of_mem_items member, ?_, congrArg Prod.fst listed, ?_⟩
  · rintro ⟨record, read, -⟩
    cases value <;> cases read
    cases noObject
  · intro records read
    rw [show Request.place (labelRequest "GET" "/zia/api/v1/labels" "") = "/zia/api/v1/labels" by
      decide +kernel] at read
    rw [read] at unreadable
    cases unreadable

end CloudAdmin.Sandbox
