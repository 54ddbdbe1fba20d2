import CloudAdmin.Proofs.Sandbox.Direct
import CloudAdmin.Proofs.Sandbox.Pages

/-!
# Walking through the lists of a sandbox

Main statement: whatever the style of a collection, a client that lists it gets the first records
that match its search, in the order of their ids and each once, and as many as fit on the pages that
it may read. Nothing is lost or repeated between two pages, and the sandbox holds what it held.
-/

namespace CloudAdmin.Sandbox

section Sizes

/-- How many records a page has: so many as the query says, or the default if it says nothing. -/
inductive ChoosesSize (name : String) (default : UInt32) (query : Query) : UInt32 → Prop where
  | byDefault (absent : Query.has name query = false) : ChoosesSize name default query default
  | stated {size : UInt32} (stated : SaysSize name query size) :
      ChoosesSize name default query size

/-- How a product hands out a list in answer to a query: in pages of some size if the query marks no
page itself, or at once. The paging of ZIA, ZCON and ZCC is that of bare arrays. -/
inductive HandsOut : Style → Pagination → Query → Option UInt32 → Prop where
  | bare (default : UInt32) {query : Query} {size : UInt32}
      (unmarked : Query.has "page" query = false)
      (chooses : ChoosesSize "pageSize" (clampPageSize default) query size) :
      HandsOut .zia (.ziaSized default) query (some size)
  | counted {query : Query} {size : UInt32} (unmarked : Query.has "page" query = false)
      (chooses : ChoosesSize "pagesize" 500 query size) : HandsOut .zpa .zpa query (some size)
  | linked {query : Query} {size : UInt32} (unmarked : Query.has "offset" query = false)
      (chooses : ChoosesSize "limit" 100 query size) :
      HandsOut .zidentity .zidentity query (some size)
  | offset {query : Query} {size : UInt32} (unmarked : Query.has "offset" query = false)
      (chooses : ChoosesSize "limit" 100 query size) : HandsOut .zdx .zdx query (some size)
  | whole (query : Query) : HandsOut .results (.envelope "results") query none

example : HandsOut .zia .zcc [("search", "a")] (some 500) := .bare 500 rfl (.byDefault rfl)

/-- The items on so many pages of a list. -/
def onPages {Item : Type} (pages : Nat) (size : Option UInt32) (items : List Item) : List Item :=
  match size with
  | some size => items.take (pages * size.toNat)
  | none => items

/-- The items of a list that are on pages that there are words for. -/
def withinReach {Item : Type} (style : Style) (size : Option UInt32) (items : List Item) :
    List Item :=
  match size with
  | some size => items.take (style.mostPages size * size.toNat)
  | none => items

theorem withinReach_eq_self {Item : Type} {style : Style} {size : Option UInt32}
    {items : List Item} (few : ∀ width, size = some width →
      items.length ≤ style.mostPages width * width.toNat) :
    withinReach style size items = items := by
  cases size with
  | none => rfl
  | some size => exact List.take_of_length_le (few size rfl)

end Sizes

section Collections

/-- How many containers the answer to a list puts around a record. -/
def Style.enclosing : Style → Nat
  | .zia => 1
  | .zpa | .zidentity | .zdx | .results => 2

/-- Whether a path is that of a collection that the sandbox lists in a style. -/
structure IsCollection (style : Style) (path : String) : Prop where
  styled : Style.ofPath path = style
  notId : isId (splitLast path).2 = false
  ordinary : special? "GET" path none = none

/-- Whether a collection consists of some records in ascending order of their ids. Their texts are
read back inside the answer to a list. -/
structure Holds (contents : Contents) (style : Style) (path : String)
    (items : List (UInt64 × Record)) : Prop where
  stored : (State.ofContents contents).items path = items.map fun item => (item.1, item.2.toValue)
  ascending : Assoc.IsAscending items
  few : items.length < UInt32.size
  readBack : ∀ item ∈ items, item.2.toValue.ReadsBack (Json.nestingLimit - style.enclosing)

/-- Whether a collection consists of some records, however many they are and whatever is in them. -/
structure Comprises (contents : Contents) (path : String) (items : List (UInt64 × Record)) :
    Prop where
  stored : (State.ofContents contents).items path = items.map fun item => (item.1, item.2.toValue)
  ascending : Assoc.IsAscending items

/-- Whether the texts of some records are read back inside the answer to a list. -/
def AreReadBack (style : Style) (items : List (UInt64 × Record)) : Prop :=
  ∀ item ∈ items, item.2.toValue.ReadsBack (Json.nestingLimit - style.enclosing)

/-- The items whose records match a search. -/
def matching (term : Option String) (items : List (UInt64 × Record)) : List (UInt64 × Record) :=
  items.filter fun item => matchesSearch term item.2.toValue

end Collections

section Answers

variable {style : Style} {path : String} {contents : Contents} {items : List (UInt64 × Record)}
  {endpoint : Endpoint} {request : Http.Request}

/-- The page that a client reads from what it is served. -/
def servedPage (endpoint : Endpoint) (contents : Contents) (request : Http.Request) :
    Except ApiError Page :=
  (serve request contents).1 >>= fun response => endpoint.readPage request response

theorem servedPage_of_serve {response : Http.Response} {after : Contents}
    (served : serve request contents = (.ok response, after)) :
    servedPage endpoint contents request = endpoint.readPage request response := by
  rw [servedPage, served]
  rfl

theorem searchItems_eq (comprises : Comprises contents path items) (asked : Request) :
    searchItems path asked (.ofContents contents) =
      ((matching (asked.parameter? "search") items).map Prod.snd).map Record.toValue := by
  rw [searchItems, comprises.stored, List.map_map, List.map_map, matching, List.filter_map]
  rfl

theorem serve_list (request : Http.Request) (leads : LeadsTo request.url path)
    (isRead : request.method = .get) (collection : IsCollection style path)
    (comprises : Comprises contents path items) :
    ∃ asked : Request, asked.query = request.query ∧
      serve request contents = (.ok (Reply.json 200 (listAnswer style path asked
        (((matching (Query.lastValue? "search" request.query) items).map Prod.snd).map
          Record.toValue))).toResponse, contents) := by
  have method : request.method.name = "GET" := by rw [isRead]; rfl
  have body : readBody (sentBody request) = .ok none := by rw [sentBody, isRead]; rfl
  rcases leads.serve_collection body
      (by rw [method]; exact collection.ordinary) collection.notId contents
      with ⟨asked, asksToRead, query, served⟩
  refine ⟨asked, query, ?_⟩
  rw [served]
  simp only [handleCollection, asksToRead, method, collection.styled, searchItems_eq comprises,
    Request.parameter?, query, State.contents_ofContents]

theorem AreReadBack.values (readBack : AreReadBack style items) :
    ∀ value ∈ (items.map Prod.snd).map Record.toValue,
      value.ReadsBack (Json.nestingLimit - style.enclosing) := by
  intro value member
  rcases List.mem_map.mp member with ⟨record, inList, rfl⟩
  rcases List.mem_map.mp inList with ⟨item, found, rfl⟩
  exact readBack item found

theorem isBlankText_listAnswer (style : Style) (path : String) (asked : Request)
    (values : List Json.Value) :
    Text.isBlankText (listAnswer style path asked values).text = false := by
  cases style with
  | zia => exact Json.Value.isBlankText_array _
  | zpa => exact Json.Value.isBlankText_object _
  | zidentity => exact Json.Value.isBlankText_object _
  | zdx => exact Json.Value.isBlankText_object _
  | results => exact Json.Value.isBlankText_object _

theorem readPage_json {body : Json.Value} (notBlank : Text.isBlankText body.text = false)
    (readsBack : body.ReadsBack Json.nestingLimit) :
    endpoint.readPage request (Reply.json 200 body).toResponse =
      Page.ofValue endpoint.pagination request body := by
  have checked : (Reply.json 200 body).toResponse.check = .ok () := rfl
  have same : (Reply.json 200 body).toResponse.body = body.text := rfl
  simp only [Endpoint.readPage, checked, same, Page.ofBody, notBlank, readsBack.parse?_text,
    Bool.false_eq_true, if_false]
  rfl

theorem readPage_unread {body : Json.Value} (notBlank : Text.isBlankText body.text = false)
    (unread : Json.parse? body.text = none) :
    endpoint.readPage request (Reply.json 200 body).toResponse = .error .malformedJson := by
  have checked : (Reply.json 200 body).toResponse.check = .ok () := rfl
  have same : (Reply.json 200 body).toResponse.body = body.text := rfl
  simp only [Endpoint.readPage, checked, same, Page.ofBody, notBlank, unread, Bool.false_eq_true,
    if_false]
  rfl

theorem mem_of_mem_slice {start count : UInt64} {values : List Json.Value} {value : Json.Value}
    (member : value ∈ slice start count values) : value ∈ values :=
  List.mem_of_mem_drop (List.mem_of_mem_take member)

theorem readsBack_listAnswer {room : Nat} {values : List Json.Value} (asked : Request)
    (readBack : ∀ value ∈ values, value.ReadsBack room) :
    (listAnswer style path asked values).ReadsBack (room + style.enclosing) := by
  have onPage {room : Nat} (start count : UInt64)
      (readBack : ∀ value ∈ values, value.ReadsBack room) :
      (Json.Value.array (slice start count values)).ReadsBack (room + 1) :=
    .array fun value member => readBack value (mem_of_mem_slice member)
  cases style with
  | zia => exact onPage _ _ readBack
  | zpa =>
      apply Json.Value.ReadsBack.ofFields
      intro field member
      rcases List.mem_cons.mp member with rfl | later
      · exact .string _
      · split at later
        · cases later
        · rcases List.mem_singleton.mp later with rfl
          exact onPage _ _ readBack
  | zidentity =>
      apply Json.Value.ReadsBack.ofFields
      intro field member
      simp only [List.mem_cons, List.not_mem_nil, or_false] at member
      rcases member with rfl | rfl | rfl | rfl | rfl
      · exact .ofWord _
      · exact .ofWord _
      · exact .ofWord _
      · simp only
        split
        · exact .string _
        · exact .null
      · exact onPage _ _ readBack
  | zdx =>
      apply Json.Value.ReadsBack.ofFields
      intro field member
      simp only [List.mem_cons, List.not_mem_nil, or_false] at member
      rcases member with rfl | rfl
      · exact onPage _ _ readBack
      · simp only
        split
        · exact .string _
        · exact .null
  | results =>
      apply Json.Value.ReadsBack.ofFields
      intro field member
      simp only [List.mem_cons, List.not_mem_nil, or_false] at member
      rcases member with rfl | rfl
      · exact .array readBack
      · exact .ofWord _

theorem AreReadBack.answer (readBack : AreReadBack style items) (path : String)
    (asked : Request) :
    (listAnswer style path asked ((items.map Prod.snd).map Record.toValue)).ReadsBack
      Json.nestingLimit := by
  have enough : style.enclosing ≤ Json.nestingLimit := by cases style <;> decide
  rw [← Nat.sub_add_cancel enough]
  exact readsBack_listAnswer asked readBack.values

end Answers

section Beginning

variable {query : Query} {name : String} {default size : UInt32}

theorem filter_eq_nil_of_has (absent : Query.has name query = false) :
    (query.filter fun pair => pair.1 == name) = [] := by
  rw [List.filter_eq_nil_iff]
  simpa [Query.has] using absent

theorem has_of_saysSize (stated : SaysSize name query size) : Query.has name query = true := by
  rcases stated with ⟨text, value, once, -⟩
  have member : (name, text) ∈ query.filter fun pair => pair.1 == name := by simp [once]
  rw [Query.has, List.any_eq_true]
  exact ⟨_, List.mem_filter.mp member⟩

theorem saysSize_withDefault (positive : default ≠ 0)
    (chooses : ChoosesSize name default query size)
    (marks : Query) (others : ∀ pair ∈ marks, pair.1 ≠ name) :
    SaysSize name (query ++ (marks ++ [(name, decimalWord default)]).filter
      fun pair => !Query.has pair.1 query) size := by
  have noMarks : ((marks.filter fun pair => !Query.has pair.1 query).filter
      fun pair => pair.1 == name) = [] := by
    rw [List.filter_eq_nil_iff]
    intro pair member
    simpa using others pair (List.mem_filter.mp member).1
  cases chooses with
  | byDefault absent =>
      refine ⟨decimalWord default, default, ?_, Text.toWord32?_decimalWord default, ?_⟩
      · simp [List.filter_append, filter_eq_nil_of_has absent, noMarks, absent]
      · rw [← UInt32.toNat_inj, toNat_max_word32]
        have notZero : default.toNat ≠ 0 := fun zero => positive (UInt32.toNat_inj.mp zero)
        exact (Nat.max_eq_left (Nat.pos_of_ne_zero notZero)).symm
  | stated stated =>
      have given := has_of_saysSize stated
      rcases stated with ⟨text, value, once, read, same⟩
      exact ⟨text, value, by simp [List.filter_append, once, noMarks, given], read, same⟩

theorem filter_withMarks {marks sizes : Query} (unmarked : Query.has name query = false)
    (areMarks : ∀ pair ∈ marks, pair.1 = name) (others : ∀ pair ∈ sizes, pair.1 ≠ name) :
    ((query ++ (marks ++ sizes).filter fun pair => !Query.has pair.1 query).filter
      fun pair => pair.1 == name) = marks := by
  have kept : ((marks.filter fun pair => !Query.has pair.1 query).filter
      fun pair => pair.1 == name) = marks := by
    rw [List.filter_filter, List.filter_eq_self]
    intro pair member
    simp [areMarks pair member, unmarked]
  have dropped : ((sizes.filter fun pair => !Query.has pair.1 query).filter
      fun pair => pair.1 == name) = [] := by
    rw [List.filter_eq_nil_iff]
    intro pair member
    simpa using others pair (List.mem_filter.mp member).1
  rw [List.filter_append, List.filter_append, List.filter_append, filter_eq_nil_of_has unmarked,
    kept, dropped, List.nil_append, List.append_nil]

theorem asksForPage_listRequest {style : Style} {endpoint : Endpoint} {marks sizes : Query}
    (first : endpoint.pagination.firstQuery = marks ++ sizes)
    (unmarked : Query.has style.markName query = false)
    (areMarks : marks = (style.mark size 0).toList.map fun value => (style.markName, value))
    (others : ∀ pair ∈ sizes, pair.1 ≠ style.markName) (positive : 0 < size.toNat) :
    AsksForPage style endpoint.url
      ((endpoint.listRequest query).query.filter fun pair => pair.1 != style.markName) size 0
      (endpoint.listRequest query) := by
  refine ⟨⟨rfl, ?_, rfl⟩, style.mostPages_pos positive⟩
  have onlyMarks : ∀ pair ∈ marks, pair.1 = style.markName := by
    intro pair member
    rw [areMarks] at member
    rcases List.mem_map.mp member with ⟨value, -, rfl⟩
    rfl
  have found := filter_withMarks unmarked onlyMarks others
  rw [← areMarks, ← found, ← first]
  rfl

end Beginning

section Dealing

variable {style : Style} {pagination : Pagination} {query : Query} {size : UInt32}
  {endpoint : Endpoint} {path : String} {contents : Contents} {items : List (UInt64 × Record)}

/-- What is beside the marks of pages in all requests of a walk. -/
def beside (style : Style) (endpoint : Endpoint) (query : Query) : Query :=
  (endpoint.listRequest query).query.filter fun pair => pair.1 != style.markName

/-- Whether a client gets slices of a list from the answers of a sandbox, and goes on as long as
anything is left. -/
def AnswersPages (style : Style) (pagination : Pagination) (url path : String) (others : Query)
    (size : UInt32) : Prop :=
  ∀ (records : List Record) (index : Nat) (request : Http.Request) (asked : Request),
    FitsPages style size records.length → AsksForPage style url others size index request →
      asked.query = request.query →
        ∃ next, Page.ofValue pagination request
            (listAnswer style path asked (records.map Record.toValue)) =
          .ok ⟨(records.drop (index * size.toNat)).take size.toNat, next⟩ ∧
            GoesOn style url others size index records.length next

theorem clampPageSize_ne_zero (size : UInt32) : clampPageSize size ≠ 0 := by
  intro zero
  have positive := toNat_clampPageSize_pos size
  rw [zero] at positive
  cases positive

theorem saysSize_beside (style : Style) {default : UInt32} {marks : Query}
    (first : endpoint.pagination.firstQuery = marks ++ [(style.sizeName, decimalWord default)])
    (positive : default ≠ 0) (chooses : ChoosesSize style.sizeName default query size)
    (others : ∀ pair ∈ marks, pair.1 ≠ style.sizeName) :
    SaysSize style.sizeName (beside style endpoint query) size := by
  have stated := saysSize_withDefault positive chooses marks others
  rw [← first] at stated
  rcases stated with ⟨text, value, once, read, same⟩
  refine ⟨text, value, ?_, read, same⟩
  rw [beside, Query.filter_filter_of_ne style.sizeName_ne_markName]
  exact once

theorem HandsOut.positive (handsOut : HandsOut style pagination query (some size)) :
    0 < size.toNat := by
  cases handsOut with
  | bare default _ chooses =>
      cases chooses with
      | byDefault => exact toNat_clampPageSize_pos default
      | stated stated => exact stated.positive
  | counted _ chooses | linked _ chooses | offset _ chooses =>
      cases chooses with
      | byDefault => decide
      | stated stated => exact stated.positive

/-- The size that a query chooses is what the sandbox reads from a request, also where the request
does not say it. -/
theorem toNat_limit {url : String} {mark : Option String} {others : Query} {request : Http.Request}
    {asked : Request} (chooses : ChoosesSize "limit" 100 query size)
    (limits : (others.filter fun pair => pair.1 == "limit") =
      query.filter fun pair => pair.1 == "limit")
    (asks : request.AsksFor url "offset" mark others) (same : asked.query = request.query) :
    (positiveParameter "limit" defaultPageSize asked).toNat = size.toNat := by
  cases chooses with
  | byDefault absent =>
      have given : asked.parameter? "limit" = none := by
        rw [Request.parameter?, same, asks.lastValue?_other (by decide),
          Query.lastValue?_eq_getLast?, limits, filter_eq_nil_of_has absent]
        rfl
      rw [positiveParameter, numberParameter, given]
      rfl
  | stated stated =>
      rcases stated with ⟨text, value, once, read, least⟩
      exact toNat_sizeParameter asks (by decide) same ⟨text, value, limits.trans once, read, least⟩
        defaultPageSize

/-- Every product that hands out a list in pages answers the requests of a walk. -/
theorem HandsOut.answersPages (handsOut : HandsOut style endpoint.pagination query (some size))
    (leads : LeadsTo endpoint.url path) :
    AsksForPage style endpoint.url (beside style endpoint query) size 0
        (endpoint.listRequest query) ∧
      AnswersPages style endpoint.pagination endpoint.url path (beside style endpoint query)
        size := by
  have positive := handsOut.positive
  generalize paging : endpoint.pagination = pagination at handsOut
  cases handsOut with
  | bare default unmarked chooses =>
      have first : endpoint.pagination.firstQuery =
          [("page", "1")] ++ [("pageSize", decimalWord (clampPageSize default))] := by
        rw [paging]
        rfl
      have stated : SaysSize "pageSize" (beside .zia endpoint query) size :=
        saysSize_beside .zia first (clampPageSize_ne_zero default) chooses
          (by simp [Style.sizeName])
      refine ⟨asksForPage_listRequest first unmarked rfl (by simp [Style.markName]) positive, ?_⟩
      intro records index request asked _ asks same
      exact ofValue_arrayPage default asks same stated
  | counted unmarked chooses =>
      have first : endpoint.pagination.firstQuery =
          [("page", "1")] ++ [("pagesize", decimalWord 500)] := by
        rw [paging]
        rfl
      have stated : SaysSize "pagesize" (beside .zpa endpoint query) size :=
        saysSize_beside .zpa first (by decide) chooses (by simp [Style.sizeName])
      refine ⟨asksForPage_listRequest first unmarked rfl (by simp [Style.markName]) positive, ?_⟩
      intro records index request asked few asks same
      exact ofValue_countedPage asks same stated few
  | linked unmarked chooses =>
      have first : endpoint.pagination.firstQuery = [] ++ [("limit", decimalWord 100)] := by
        rw [paging]
        rfl
      have stated : SaysSize "limit" (beside .zidentity endpoint query) size :=
        saysSize_beside .zidentity first (by decide) chooses (by simp)
      rcases leads.unmarked with ⟨starts, noQuery, noFragment⟩
      refine ⟨asksForPage_listRequest first unmarked rfl (by simp [Style.markName]) positive, ?_⟩
      intro records index request asked few asks same
      exact ofValue_linkedPage starts noQuery noFragment asks same few stated
  | offset unmarked chooses =>
      have first : endpoint.pagination.firstQuery = [] ++ [] := by
        rw [paging]
        rfl
      have nothingAdded : (endpoint.listRequest query).query = query := by
        change [] ++ endpoint.pagination.listQuery query = query
        simp [Pagination.listQuery, first]
      have limits : (beside .zdx endpoint query).filter (fun pair => pair.1 == "limit") =
          query.filter fun pair => pair.1 == "limit" := by
        rw [beside, Query.filter_filter_of_ne (by decide), nothingAdded]
      refine ⟨asksForPage_listRequest first unmarked rfl (by simp) positive, ?_⟩
      intro records index request asked few asks same
      exact ofValue_offsetPage asks same few positive (toNat_limit chooses limits asks.1 same)

/-- No strategy of a product says what to search for. -/
theorem HandsOut.lastValue?_search {size : Option UInt32}
    (handsOut : HandsOut style pagination query size) :
    Query.lastValue? "search" (pagination.listQuery query) = Query.lastValue? "search" query := by
  have none : (pagination.firstQuery.filter fun pair => !Query.has pair.1 query).filter
      (fun pair => pair.1 == "search") = [] := by
    rw [List.filter_eq_nil_iff]
    intro pair member
    have inFirst := (List.mem_filter.mp member).1
    cases handsOut with
    | whole => cases inFirst
    | offset => cases inFirst
    | linked =>
        rcases List.mem_singleton.mp inFirst with rfl
        decide
    | counted =>
        simp only [Pagination.zpa, Pagination.firstQuery, List.mem_cons, List.not_mem_nil,
          or_false] at inFirst
        rcases inFirst with rfl | rfl <;> decide
    | bare =>
        simp only [Pagination.ziaSized, Pagination.firstQuery, List.mem_cons, List.not_mem_nil,
          or_false] at inFirst
        rcases inFirst with rfl | rfl <;> simp
  rw [Query.lastValue?_eq_getLast?, Query.lastValue?_eq_getLast?, Pagination.listQuery,
    List.filter_append, none, List.append_nil]

/-- A page that there is a word for is the same slice of what is within reach. -/
theorem drop_withinReach {Item : Type} {style : Style} {index : Nat}
    (inRange : index < style.mostPages size) (items : List Item) :
    ((withinReach style (some size) items).drop (index * size.toNat)).take size.toNat =
      (items.drop (index * size.toNat)).take size.toNat := by
  have room : size.toNat ≤ style.mostPages size * size.toNat - index * size.toNat := by
    rw [← Nat.sub_mul]
    exact Nat.le_mul_of_pos_left _ (Nat.sub_pos_of_lt inRange)
  rw [withinReach, List.drop_take, List.take_take, Nat.min_eq_left room]

/-- A sandbox that answers pages deals out the records of a collection that match the search, as
many as are within reach. -/
theorem deals_of_answersPages (handsOut : HandsOut style endpoint.pagination query (some size))
    (leads : LeadsTo endpoint.url path) (collection : IsCollection style path)
    (comprises : Comprises contents path items)
    (readBack : AreReadBack style (matching (Query.lastValue? "search" query) items))
    (few : FitsPages style size (matching (Query.lastValue? "search" query) items).length)
    (answers : AnswersPages style endpoint.pagination endpoint.url path
      (beside style endpoint query) size) :
    Client.Deals (servedPage endpoint contents)
      (withinReach style (some size)
        ((matching (Query.lastValue? "search" query) items).map Prod.snd)) size.toNat
      (AsksForPage style endpoint.url (beside style endpoint query) size) := by
  intro index request asks
  have plain := asks.1.plain
  have term : Query.lastValue? "search" request.query = Query.lastValue? "search" query := by
    rw [asks.1.lastValue?_other style.search_ne_markName, beside,
      Query.lastValue?_filter_of_ne style.search_ne_markName]
    exact handsOut.lastValue?_search
  rcases serve_list request (by rw [plain]; exact leads)
      (by rw [plain]; rfl) collection comprises with ⟨asked, same, served⟩
  rw [term] at served
  rw [← List.length_map Prod.snd] at few
  rcases answers _ index request asked few asks same with ⟨next, read, last, following⟩
  refine ⟨next, ?_, ?_, following⟩
  · rw [drop_withinReach asks.2, servedPage_of_serve served, readPage_json
      (isBlankText_listAnswer ..) (readBack.answer path asked), read]
  · rwa [withinReach, List.length_take]

end Dealing

section Walking

variable {World : Type} {supply : TokenSupply} {client : Client World} {sandbox : World → State}

/-- A page that a client reads is the one that the sandbox serves. -/
theorem perform_readPage_of_reaches
    (reaches : Reaches supply client.session.authenticator client.session.host sandbox)
    (endpoint : Endpoint) {request : Http.Request}
    (isResource : IsResource request.method request.url) (only : HasOnlyContentType request)
    (state : SessionState World) :
    ((client.readPage endpoint request).perform state).1 =
        servedPage endpoint (held sandbox state) request ∧
      held sandbox ((client.readPage endpoint request).perform state).2 =
        (serve request (held sandbox state)).2 := by
  rcases perform_execute_of_reaches reaches isResource only state with ⟨answer, contents⟩
  rcases performed : (client.execute request).perform state with ⟨result, after⟩
  rw [performed] at answer contents
  rw [Client.readPage, Action.perform_bind, performed, servedPage, ← answer]
  cases result with
  | error error => exact ⟨rfl, contents⟩
  | ok response => exact ⟨rfl, contents⟩

/-- A walk through pages that a sandbox deals out yields their records and changes nothing. -/
theorem listAll_of_deals
    (reaches : Reaches supply client.session.authenticator client.session.host sandbox)
    {endpoint : Endpoint} {query : Query} {style : Style} {path : String}
    (leads : LeadsTo endpoint.url path) (collection : IsCollection style path)
    (state : SessionState World) {items : List (UInt64 × Record)}
    (comprises : Comprises (held sandbox state) path items) {records : List Record} {size : Nat}
    {asks : Nat → Http.Request → Prop}
    (deals : Client.Deals (servedPage endpoint (held sandbox state)) records size asks)
    (plain : ∀ index request, asks index request →
      request = { Http.Request.read endpoint.url with query := request.query })
    (first : asks 0 (endpoint.listRequest query)) :
    ((client.listAll endpoint query).perform state).1 =
        .ok (records.take (max client.maxPages 1 * size)) ∧
      held sandbox ((client.listAll endpoint query).perform state).2 = held sandbox state := by
  have read : ∀ index request other, asks index request →
      held sandbox other = held sandbox state →
        ((client.readPage endpoint request).perform other).1 =
            servedPage endpoint (held sandbox state) request ∧
          held sandbox ((client.readPage endpoint request).perform other).2 =
            held sandbox state := by
    intro index request other asked same
    have bare := plain index request asked
    have leads' : LeadsTo request.url path := by rw [bare]; exact leads
    have only : HasOnlyContentType request := by
      intro header member
      rw [bare] at member
      cases member
    rcases serve_list request leads' (by rw [bare]; rfl) collection comprises
      with ⟨asked, -, served⟩
    have performed := perform_readPage_of_reaches reaches endpoint
      (leads'.isResource request.method) only other
    rw [same, served] at performed
    rw [performed.1]
    exact ⟨rfl, performed.2⟩
  have walked := Client.perform_walk read deals (max client.maxPages 1) 0 _ state first rfl
  rw [Nat.zero_mul, List.drop_zero] at walked
  exact walked

theorem deals_whole {endpoint : Endpoint} {query : Query} {path : String} {contents : Contents}
    {items : List (UInt64 × Record)} {records : List Record}
    (whole : endpoint.pagination = .envelope "results") (leads : LeadsTo endpoint.url path)
    (collection : IsCollection .results path) (comprises : Comprises contents path items)
    (readBack : AreReadBack .results (matching (Query.lastValue? "search" query) items))
    (found : (matching (Query.lastValue? "search" query) items).map Prod.snd = records) :
    Client.Deals (servedPage endpoint contents) records records.length
      fun index request => index = 0 ∧ request = endpoint.listRequest query := by
  intro index request first
  rcases first with ⟨rfl, rfl⟩
  have term : Query.lastValue? "search" (endpoint.listRequest query).query =
      Query.lastValue? "search" query := by
    change Query.lastValue? "search" (endpoint.pagination.listQuery query) = _
    rw [whole]
    exact (HandsOut.whole query).lastValue?_search
  rcases serve_list (endpoint.listRequest query) leads rfl collection comprises
    with ⟨asked, -, served⟩
  rw [term, found] at served
  have answer := readBack.answer path asked
  rw [found] at answer
  have inside : Page.itemsAt "results"
      (listAnswer .results path asked (records.map Record.toValue)) = .ok records := by
    apply itemsAt_of_array
    simp [listAnswer, wholeList, Json.Value.ofFields, Json.Value.field?, Assoc.find?_ofList]
  have page : Page.ofValue endpoint.pagination (endpoint.listRequest query)
      (listAnswer .results path asked (records.map Record.toValue)) = .ok ⟨records, none⟩ := by
    rw [whole, Page.ofValue, inside]
    rfl
  have slice : (records.drop (0 * records.length)).take records.length = records := by
    rw [Nat.zero_mul, List.drop_zero, List.take_length]
  refine ⟨none, ?_, fun _ => by omega, fun following told => by cases told⟩
  rw [slice, servedPage_of_serve served, readPage_json (isBlankText_listAnswer ..) answer, page]

/-- A list yields the first records that match the search, as many as fit on the pages that the
client may read and that there are words for. -/
theorem perform_listAll_matching (client : Client World)
    (reaches : Reaches supply client.session.authenticator client.session.host sandbox)
    (endpoint : Endpoint) {style : Style} (query : Query) {size : Option UInt32}
    (handsOut : HandsOut style endpoint.pagination query size) {path : String}
    (leads : LeadsTo endpoint.url path) (collection : IsCollection style path)
    (state : SessionState World) {items : List (UInt64 × Record)}
    (comprises : Comprises (held sandbox state) path items)
    (readBack : AreReadBack style (matching (Query.lastValue? "search" query) items))
    (few : ∀ width, size = some width →
      FitsPages style width (matching (Query.lastValue? "search" query) items).length) :
    ((client.listAll endpoint query).perform state).1 =
        .ok ((onPages (max client.maxPages 1) size (withinReach style size
          (matching (Query.lastValue? "search" query) items))).map Prod.snd) ∧
      held sandbox ((client.listAll endpoint query).perform state).2 = held sandbox state := by
  cases size with
  | some size =>
      rcases handsOut.answersPages leads with ⟨first, answers⟩
      have walked := listAll_of_deals reaches leads collection state comprises
        (deals_of_answersPages handsOut leads collection comprises readBack (few size rfl)
          answers)
        (fun _ _ asks => asks.1.plain) first
      rw [withinReach, ← List.map_take, ← List.map_take] at walked
      exact walked
  | none =>
      generalize paging : endpoint.pagination = pagination at handsOut
      cases handsOut
      have found : (matching (Query.lastValue? "search" query) items).map Prod.snd = _ := rfl
      have walked := listAll_of_deals reaches leads collection state comprises
        (deals_whole paging leads collection comprises readBack found) (by rintro _ _ ⟨-, rfl⟩; rfl)
        ⟨rfl, rfl⟩
      have all : ∀ records : List Record,
          records.take (max client.maxPages 1 * records.length) = records := fun records =>
        List.take_of_length_le (Nat.le_mul_of_pos_left _ (Nat.lt_of_lt_of_le Nat.zero_lt_one
          (Nat.le_max_right ..)))
      rw [all] at walked
      exact walked

/-- A client that lists a collection gets the first records that match the search, in the order of
their ids and each once, and as many as fit on the pages that it may read. -/
theorem listAll_yields_matching (client : Client World)
    (reaches : Reaches supply client.session.authenticator client.session.host sandbox)
    (endpoint : Endpoint) {style : Style} (query : Query) {size : Option UInt32}
    (handsOut : HandsOut style endpoint.pagination query size) {path : String}
    (leads : LeadsTo endpoint.url path) (collection : IsCollection style path)
    (state : SessionState World) {items : List (UInt64 × Record)}
    (holds : Holds (held sandbox state) style path items) :
    let listed := onPages (max client.maxPages 1) size
      (matching (Query.lastValue? "search" query) items)
    ((client.listAll endpoint query).perform state).1 = .ok (listed.map Prod.snd) ∧
      Assoc.IsAscending listed ∧
        held sandbox ((client.listAll endpoint query).perform state).2 = held sandbox state := by
  intro listed
  have ascending : Assoc.IsAscending (matching (Query.lastValue? "search" query) items) :=
    List.Pairwise.sublist List.filter_sublist holds.ascending
  have readBack : AreReadBack style (matching (Query.lastValue? "search" query) items) :=
    fun item found => holds.readBack item (List.mem_filter.mp found).1
  have few : ∀ width, size = some width →
      (matching (Query.lastValue? "search" query) items).length ≤
        style.mostPages width * width.toNat := by
    rintro width rfl
    exact le_mostPages_of_lt style handsOut.positive
      (Nat.lt_of_le_of_lt (List.length_filter_le ..) holds.few)
  have walked := perform_listAll_matching client reaches endpoint query handsOut leads collection
    state ⟨holds.stored, holds.ascending⟩ readBack fun width chosen => .inr (few width chosen)
  rw [withinReach_eq_self few] at walked
  have sublist : listed.Sublist (matching (Query.lastValue? "search" query) items) := by
    cases size with
    | some size => exact List.take_sublist ..
    | none => exact List.Sublist.refl _
  exact ⟨walked.1, List.Pairwise.sublist sublist ascending, walked.2⟩

/-- The users of the customer on this machine. -/
def usersEndpoint : Endpoint :=
  ⟨"http://127.0.0.1:3000/ziam/admin/api/v1/users", .zidentity⟩

/-- Three users; the names of the first and the last have something in common. -/
def threeUsers : List (UInt64 × Record) :=
  [(1, ⟨[("name", .string "ann")]⟩), (2, ⟨[("name", .string "bob")]⟩),
    (4, ⟨[("name", .string "dan")]⟩)]

/-- A sandbox that holds the three users. -/
def withThreeUsers : State :=
  { State.empty with
    store := [("/ziam/admin/api/v1/users", threeUsers.map fun item => (item.1, item.2.toValue))] }

theorem leadsTo_users : LeadsTo usersEndpoint.url "/ziam/admin/api/v1/users" := by
  have parsed : (Url.parse usersEndpoint.url).toOption =
      some ⟨"http".toList, some ⟨[], .ipv4 0x7F000001, some 3000⟩,
        .segments ["ziam".toList, "admin".toList, "api".toList, "v1".toList, "users".toList], none,
        none⟩ := by
    decide +kernel
  exact ⟨_, eq_ok_of_toOption parsed, by decide, rfl, by decide, by decide⟩

theorem holds_threeUsers :
    Holds withThreeUsers.contents .zidentity "/ziam/admin/api/v1/users" threeUsers where
  stored := rfl
  ascending := by simp [threeUsers, Assoc.IsAscending]
  few := by decide
  readBack := by
    intro item member
    simp only [threeUsers, List.mem_cons, List.not_mem_nil, or_false] at member
    rcases member with rfl | rfl | rfl <;>
      exact .object (List.pairwise_singleton ..) (by simpa using .string _)

/-- The client of the customer on this machine. -/
def localClient : Client State :=
  ⟨⟨direct countingSupply 0 0, localCustomer⟩, Routes.gateway "http://127.0.0.1:3000" none, 5⟩

theorem listAll_yields_matching_users :
    ((localClient.listAll usersEndpoint [("search", "AN"), ("limit", "1")]).perform
        ⟨none, withThreeUsers⟩).1 =
      .ok [⟨[("name", .string "ann")]⟩, ⟨[("name", .string "dan")]⟩] := by
  have one : SaysSize "limit" [("search", "AN"), ("limit", "1")] 1 :=
    ⟨"1", 1, rfl, by decide, by decide⟩
  have walked := listAll_yields_matching localClient
    (reaches_direct isTokenText_countingSupply accepts_localCustomer 0) usersEndpoint
    [("search", "AN"), ("limit", "1")] (.linked rfl (.stated one)) leadsTo_users
    ⟨by decide +kernel, by decide +kernel, by decide +kernel⟩ ⟨none, withThreeUsers⟩
    holds_threeUsers
  have ann : matchesSearch (some "AN") (.object [("name", .string "ann")]) = true := by
    decide +kernel
  have bob : matchesSearch (some "AN") (.object [("name", .string "bob")]) = false := by
    decide +kernel
  have dan : matchesSearch (some "AN") (.object [("name", .string "dan")]) = true := by
    decide +kernel
  have found : matching (some "AN") threeUsers =
      [(1, ⟨[("name", .string "ann")]⟩), (4, ⟨[("name", .string "dan")]⟩)] := by
    simp [matching, threeUsers, Record.toValue, ann, bob, dan]
  refine walked.1.trans ?_
  change Except.ok ((onPages 5 (some 1) (matching (some "AN") threeUsers)).map Prod.snd) = _
  rw [found]
  rfl

end Walking

end CloudAdmin.Sandbox
