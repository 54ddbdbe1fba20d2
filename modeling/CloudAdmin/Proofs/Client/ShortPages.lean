import CloudAdmin.Proofs.Client.Interleaving
import CloudAdmin.Proofs.Client.Paging
import CloudAdmin.Proofs.Json.RoundTrip

/-!
# Lists that end with a short page

Bare arrays do not say whether another one comes after them. A client takes a page for the last one
if it has fewer items than the client believes to have asked for. What it believes may be less than
what the server deals out, but never more, unless the server keeps its pages shorter than it was
asked to; so a short page is always the end of the list. Main statement: against any server that
deals out a list in slices that are long enough, a client gets the records from the page that the
caller starts at, in their order and each once, and as many as are on the pages that it may read.
The server may refuse tokens at any time, as long as it accepts new ones.

The two parameters must have different names. If they have not, the number of a page is read as the
size of a page, and the walk ends too early.
-/

namespace CloudAdmin

namespace Client

section Beginning

variable {url pageParam sizeParam : String} {pageSize : UInt32} {query : Query}
  {start : Option Nat} {chosen : Option UInt32}

/-- The list of pages that are numbered from one. -/
def numberedList (url pageParam sizeParam : String) (pageSize : UInt32) : Endpoint :=
  ⟨url, .pageNumber pageParam sizeParam pageSize 1⟩

/-- What is asked for beside the number of a page. -/
def besideNumber (url pageParam sizeParam : String) (pageSize : UInt32) (query : Query) : Query :=
  ((numberedList url pageParam sizeParam pageSize).listRequest query).query.filter
    fun pair => pair.1 != pageParam

/-- A walk starts at the page that the caller asks for, and at the first one by default. -/
theorem asksFor_listRequest (different : pageParam ≠ sizeParam)
    (starts : (query.filter fun pair => pair.1 == pageParam) =
      (start.map fun page => (pageParam, Text.decimal page)).toList) :
    ((numberedList url pageParam sizeParam pageSize).listRequest query).AsksFor url pageParam
      (some (Text.decimal (start.getD 1)))
      (besideNumber url pageParam sizeParam pageSize query) := by
  refine ⟨rfl, ?_, rfl⟩
  have given : Query.has pageParam query = start.isSome := by
    rw [Query.has_eq_isEmpty_filter, starts]
    cases start <;> rfl
  have other : (sizeParam == pageParam) = false := by simpa using different.symm
  change ((query ++ _).filter fun pair => pair.1 == pageParam) = _
  rw [List.filter_append, starts, List.filter_filter]
  cases start with
  | none => simp [numberedList, Pagination.firstQuery, given, other, decimalWord]
  | some page => simp [numberedList, Pagination.firstQuery, given, other]

/-- The size that is asked for is the one that the caller chooses, or that of the list. -/
theorem value?_besideNumber (different : pageParam ≠ sizeParam)
    (chooses : Query.value? sizeParam query = chosen.map decimalWord) :
    Query.value? sizeParam (besideNumber url pageParam sizeParam pageSize query) =
      some (decimalWord (chosen.getD pageSize)) := by
  rw [besideNumber, Query.value?_filter_of_ne different.symm]
  change Query.value? sizeParam (query ++ _) = _
  rw [Query.value?_append, chooses]
  cases chosen with
  | some size => rfl
  | none =>
      have absent : Query.has sizeParam query = false := by
        rw [Query.has_eq_isSome_value?, chooses]
        rfl
      have other : (pageParam == sizeParam) = false := by simpa using different
      cases given : Query.has pageParam query with
      | false => simp [numberedList, Pagination.firstQuery, Query.value?, absent, given, other]
      | true => simp [numberedList, Pagination.firstQuery, Query.value?, absent, given]

end Beginning

section Dealing

variable {World : Type}

/-- The records on a page, if all pages but the last have the same length. -/
def pageOf (length page : Nat) (records : List Record) : List Record :=
  (records.drop ((page - 1) * length)).take length

/-- Whether a response brings some records as an array. -/
structure Brings (response : Http.Response) (records : List Record) : Prop where
  success : response.isSuccess = true
  parsed : Json.parse? response.body = some (.array (records.map Record.toValue))

/-- Whether a list is dealt out in slices of one length to those who are let in. Everybody can log
in and is then let in. Whoever is let in and asks for a page gets the slice with its number, and
whoever is not let in is told so. How long one is let in is left to the host. -/
structure DealsSlices (session : Session World) (accepts : Token → World → Prop)
    (url pageParam : String) (others : Query) (records : List Record) (length : Nat) : Prop where
  welcomes : ∀ now state, ∃ token world,
    (session.login now).perform state = (.ok token, ⟨some token, world⟩) ∧ accepts token world
  answers : ∀ (page : Nat) (request : Http.Request) (token : Token) (world : World), 0 < page →
    request.AsksFor url pageParam (some (Text.decimal page)) others → accepts token world →
      ∃ response, (session.host.send (token.authorize request) world).1 = .ok response ∧
        Brings response (pageOf length page records)
  refuses : ∀ (page : Nat) (request : Http.Request) (token : Token) (world : World), 0 < page →
    request.AsksFor url pageParam (some (Text.decimal page)) others → ¬accepts token world →
      ∃ response, (session.host.send (token.authorize request) world).1 = .ok response ∧
        response.status = 401

variable {client : Client World} {accepts : Token → World → Prop} {url pageParam : String}
  {others : Query} {records : List Record} {length page : Nat} {request : Http.Request}

theorem DealsSlices.perform_token
    (deals : DealsSlices client.session accepts url pageParam others records length)
    (state : SessionState World) :
    ∃ token after, client.session.token.perform state = (.ok token, after) ∧
      (state.token = none → accepts token after.world) := by
  simp only [Session.perform_token]
  cases fresh : state.token.filter (·.isFresh (client.session.host.sessionClock state.world).1) with
  | some token =>
      refine ⟨token, _, rfl, ?_⟩
      intro nothing
      rw [nothing] at fresh
      cases fresh
  | none =>
      rcases deals.welcomes (client.session.host.sessionClock state.world).1
        { state with world := (client.session.host.sessionClock state.world).2 } with
        ⟨token, world, performed, accepted⟩
      exact ⟨token, _, performed, fun _ => accepted⟩

theorem Brings.status_ne {response : Http.Response} (brings : Brings response records) :
    response.status ≠ 401 := by
  intro refused
  have success := brings.success
  rw [Http.Response.isSuccess, refused] at success
  cases success

/-- A request for a page brings the slice, if not with the first token then with the second. -/
theorem DealsSlices.perform_execute
    (deals : DealsSlices client.session accepts url pageParam others records length)
    (positive : 0 < page) (asks : request.AsksFor url pageParam (some (Text.decimal page)) others)
    (state : SessionState World) :
    ∃ response, ((client.execute request).perform state).1 = .ok response ∧
      Brings response (pageOf length page records) := by
  rcases deals.perform_token state with ⟨token, ready, obtained, -⟩
  rw [Client.perform_execute, perform_sendAuthorized, obtained]
  simp only [Session.perform_send]
  by_cases accepted : accepts token ready.world
  · rcases deals.answers page request token ready.world positive asks accepted with
      ⟨response, received, brings⟩
    simp only [received, brings.status_ne, if_false]
    exact ⟨response, rfl, brings⟩
  · rcases deals.refuses page request token ready.world positive asks accepted with
      ⟨refusal, received, refused⟩
    simp only [received, refused, if_true]
    rcases deals.perform_token
      ⟨none, (client.session.host.send (token.authorize request) ready.world).2⟩ with
      ⟨renewed, again, obtainedAgain, letIn⟩
    rw [perform_sendAuthorized, obtainedAgain]
    simp only [Session.perform_send]
    rcases deals.answers page request renewed again.world positive asks (letIn rfl) with
      ⟨response, receivedAgain, brings⟩
    rw [receivedAgain]
    exact ⟨response, rfl, brings⟩

/-- A page is taken for the last one if it is shorter than the client believes to have asked for. -/
theorem Brings.readPage {response : Http.Response} {sizeParam : String} {pageSize word : UInt32}
    (brings : Brings response records) (different : pageParam ≠ sizeParam)
    (asks : request.AsksFor url pageParam (some (Text.decimal page)) others)
    (size : Query.value? sizeParam others = some (decimalWord word)) :
    (numberedList url pageParam sizeParam pageSize).readPage request response =
      .ok ⟨records, if (clampPageSize word).toNat ≤ records.length then
        request.nextPage? pageParam 1 else none⟩ := by
  have notBlank := Json.isBlankText_of_parse? brings.parsed
  have read : request.queryValue? sizeParam = some (decimalWord word) :=
    (asks.value?_other different.symm).trans size
  have items : Page.arrayItems (.array (records.map Record.toValue)) = .ok records :=
    Record.mapM_ofValue_map_toValue records
  simp only [Endpoint.readPage, Http.Response.check, brings.success, if_true, Page.ofBody, notBlank,
    Bool.false_eq_true, if_false, brings.parsed, numberedList, Page.ofValue, items, read,
    Option.bind_some, Text.toWord32?_decimalWord, Option.getD_some]
  rfl

theorem pageOf_succ (length index : Nat) (records : List Record) :
    pageOf length (index + 1) records = (records.drop (index * length)).take length :=
  rfl

/-- A page that is not full is the last one. -/
theorem length_le_of_length_pageOf_lt {index : Nat}
    (short : (pageOf length (index + 1) records).length < length) :
    records.length ≤ (index + 1) * length := by
  rw [pageOf_succ, List.length_take, List.length_drop] at short
  rw [Nat.succ_mul]
  omega

theorem lt_of_length_pageOf_pos {index : Nat} (few : records.length < UInt32.size)
    (some_ : 0 < (pageOf length (index + 1) records).length) : index + 1 < UInt32.size := by
  rw [pageOf_succ, List.length_take, List.length_drop] at some_
  have before : index ≤ index * length := Nat.le_mul_of_pos_right index (by omega)
  omega

/-- A page is the slice of its index, and leads to the one behind it unless nothing is left there:
a page that the client takes for a short one is not full, whatever length the pages have. -/
theorem DealsSlices.perform_readPage
    (deals : DealsSlices client.session accepts url pageParam others records length)
    {sizeParam : String} {pageSize word : UInt32} (different : pageParam ≠ sizeParam)
    (size : Query.value? sizeParam others = some (decimalWord word))
    (few : records.length < UInt32.size) (long : (clampPageSize word).toNat ≤ length) {index : Nat}
    (asks : request.AsksFor url pageParam (some (Text.decimal (index + 1))) others)
    (state : SessionState World) :
    ∃ next,
      ((client.readPage (numberedList url pageParam sizeParam pageSize) request).perform state).1 =
          .ok ⟨pageOf length (index + 1) records, next⟩ ∧
        (next = none → records.length ≤ (index + 1) * length) ∧
        ∀ following, next = some following →
          following.AsksFor url pageParam (some (Text.decimal (index + 1 + 1))) others := by
  have positive := toNat_clampPageSize_pos word
  have inRange : (clampPageSize word).toNat ≤ (pageOf length (index + 1) records).length →
      index + 1 < UInt32.size := by
    intro full
    exact lt_of_length_pageOf_pos few (Nat.lt_of_lt_of_le positive full)
  have stop : ¬(clampPageSize word).toNat ≤ (pageOf length (index + 1) records).length →
      records.length ≤ (index + 1) * length := by
    intro short
    apply length_le_of_length_pageOf_lt
    omega
  have numbered : CanBeNumbered records.length length :=
    canBeNumbered_of_lt (Nat.lt_of_lt_of_le positive long) few
  rcases asks.goesOn_nextPage? 1 inRange numbered stop with ⟨last, following⟩
  refine ⟨_, ?_, last, fun next found => (following next found).1⟩
  rcases deals.perform_execute (Nat.succ_pos index) asks state with ⟨response, performed, brings⟩
  rw [readPage, Action.perform_bind]
  rcases executed : (client.execute request).perform state with ⟨result, after⟩
  rw [executed] at performed
  rcases performed with rfl
  exact brings.readPage different asks size

end Dealing

section Listing

variable {World : Type}

/-- A client that lists pages which are numbered from one gets all records from the page that the
caller starts at, or as many as are on the pages that it may read. The pages may have any length
that is not less than the size that the client believes to have asked for. -/
theorem listAll_yields_slices {client : Client World} {accepts : Token → World → Prop}
    {url pageParam sizeParam : String} {pageSize : UInt32} {query : Query} {records : List Record}
    {length : Nat} {start : Option Nat} {chosen : Option UInt32}
    (different : pageParam ≠ sizeParam)
    (starts : (query.filter fun pair => pair.1 == pageParam) =
      (start.map fun page => (pageParam, Text.decimal page)).toList)
    (notZero : start ≠ some 0)
    (chooses : Query.value? sizeParam query = chosen.map decimalWord)
    (few : records.length < UInt32.size)
    (long : min (max (chosen.getD pageSize).toNat 1) 10000 ≤ length)
    (deals : DealsSlices client.session accepts url pageParam
      (besideNumber url pageParam sizeParam pageSize query) records length)
    (state : SessionState World) :
    ((client.listAll (numberedList url pageParam sizeParam pageSize) query).perform state).1 =
      .ok ((records.drop ((start.getD 1 - 1) * length)).take (max client.maxPages 1 * length)) := by
  have size : Query.value? sizeParam (besideNumber url pageParam sizeParam pageSize query) =
      some (decimalWord (chosen.getD pageSize)) := value?_besideNumber different chooses
  have counted : start.getD 1 - 1 + 1 = start.getD 1 := by
    cases start with
    | none => rfl
    | some page =>
        have notZero : page ≠ 0 := fun zero => notZero (congrArg some zero)
        exact Nat.succ_pred_eq_of_ne_zero notZero
  have read (index : Nat) (request : Http.Request) (state : SessionState World)
      (asks : request.AsksFor url pageParam (some (Text.decimal (index + 1)))
        (besideNumber url pageParam sizeParam pageSize query)) (_ : True) : ∃ next,
      ((client.readPage (numberedList url pageParam sizeParam pageSize) request).perform state).1 =
          .ok ⟨(records.drop (index * length)).take length, next⟩ ∧
        (next = none → records.length ≤ (index + 1) * length) ∧
        (∀ following, next = some following →
          following.AsksFor url pageParam (some (Text.decimal (index + 1 + 1)))
            (besideNumber url pageParam sizeParam pageSize query)) ∧ True := by
    rw [← toNat_clampPageSize] at long
    rcases deals.perform_readPage different size few long asks state with
      ⟨next, result, last, following⟩
    exact ⟨next, result, last, following, trivial⟩
  have first : ((numberedList url pageParam sizeParam pageSize).listRequest query).AsksFor url
      pageParam (some (Text.decimal (start.getD 1 - 1 + 1)))
      (besideNumber url pageParam sizeParam pageSize query) := by
    rw [counted]
    exact asksFor_listRequest different starts
  exact (perform_walk_of_read read (max client.maxPages 1) _ _ state first trivial).1

/-- A host that issues a token to everybody and deals out a list in slices. -/
def slicing (pageParam : String) (records : List Record) (length : Nat) : Host Unit where
  sessionClock _ := (0, ())
  wallClock _ := (0, ())
  send request _ :=
    let page := ((request.queryValue? pageParam).bind fun text => Text.unsigned? text.toList).getD 1
    (.ok (if request.method = .post then loginAnswer
      else
        ⟨200, [], (Json.Value.array ((pageOf length page records).map Record.toValue)).text⟩), ())

theorem dealsSlices_slicing {records : List Record}
    (readBack : ∀ record ∈ records, record.toValue.ReadsBack (Json.nestingLimit - 1))
    (url pageParam : String) (others : Query) (length : Nat) :
    DealsSlices ⟨slicing pageParam records length, deviceAdministrator⟩ (fun _ _ => True) url
      pageParam others records length where
  welcomes now state := by
    refine ⟨⟨"T2", .authTokenHeader, Saturating.add now Authenticator.defaultLifetime⟩, (), ?_,
      trivial⟩
    obtain ⟨login, built, posted⟩ : ∃ login, deviceAdministrator.loginRequest now = .ok login ∧
        login.method = .post := ⟨_, rfl, rfl⟩
    have answered : ((slicing pageParam records length).send login state.world).1 =
        .ok loginAnswer := by
      simp [slicing, posted]
    simp only [Session.perform_login, built, answered, readLogin_loginAnswer]
  answers page request token world positive asks accepted := by
    have given : request.queryValue? pageParam = some (Text.decimal page) := asks.value?_mark
    have number : Text.unsigned? (Text.decimal page).toList = some page := by
      rw [Text.decimal, String.toList_ofList]
      exact Text.unsigned?_of_natural? (Text.natural?_toDigits page)
    have isRead : request.method = .get := by rw [asks.plain]; rfl
    refine ⟨⟨200, [], (Json.Value.array ((pageOf length page records).map Record.toValue)).text⟩,
      ?_, rfl, ?_⟩
    · have sameValue : (token.authorize request).queryValue? pageParam =
          some (Text.decimal page) := given
      have sameMethod : (token.authorize request).method = .get := isRead
      simp [slicing, sameValue, sameMethod, number]
    · apply Json.Value.ReadsBack.parse?_text
      refine .array fun value member => ?_
      rcases List.mem_map.mp member with ⟨record, inPage, rfl⟩
      exact readBack record (List.mem_of_mem_drop (List.mem_of_mem_take inPage))
  refuses _ _ _ _ _ _ refused := absurd trivial refused

def threeRecords : List Record :=
  [⟨[("id", .ofWord 1)]⟩, ⟨[("id", .ofWord 2)]⟩, ⟨[("id", .ofWord 3)]⟩]

theorem readBack_threeRecords :
    ∀ record ∈ threeRecords, record.toValue.ReadsBack (Json.nestingLimit - 1) := by
  intro record member
  have single (word : UInt64) :
      (Record.toValue ⟨[("id", .ofWord word)]⟩).ReadsBack (Json.nestingLimit - 1) := by
    refine .object (by simp [Assoc.IsAscending]) ?_
    intro field inFields
    rcases List.mem_singleton.mp inFields with rfl
    exact .ofWord word
  simp only [threeRecords, List.mem_cons, List.not_mem_nil, or_false] at member
  rcases member with rfl | rfl | rfl
  · exact single 1
  · exact single 2
  · exact single 3

/-- The client of an administrator who reads at most five pages. -/
def readerOf (host : Host Unit) : Client Unit :=
  ⟨⟨host, deviceAdministrator⟩, .ownHost .zcc "http://127.0.0.1" none, 5⟩

/-- The caller starts at the second page of two, and asks for pages of no size at all. -/
theorem listAll_yields_slices_ofThree :
    let query : Query := [("page", "2"), ("pageSize", "0")]
    let url := "http://127.0.0.1/devices"
    DealsSlices (readerOf (slicing "page" threeRecords 2)).session (fun _ _ => True) url "page"
        (besideNumber url "page" "pageSize" 500 query) threeRecords 2 ∧
      (((readerOf (slicing "page" threeRecords 2)).listAll
        (numberedList url "page" "pageSize" 500) query).perform ⟨none, ()⟩).1 =
          .ok [⟨[("id", .ofWord 3)]⟩] := by
  intro query url
  have deals := dealsSlices_slicing readBack_threeRecords url "page"
    (besideNumber url "page" "pageSize" 500 query) 2
  have starts : (query.filter fun pair => pair.1 == "page") =
      ((some 2).map fun page => ("page", Text.decimal page)).toList := by
    decide
  have chooses : Query.value? "pageSize" query = (some 0).map decimalWord := by
    decide
  have few : threeRecords.length < UInt32.size := by decide
  have long : min (max (Option.getD (some 0) (500 : UInt32)).toNat 1) 10000 ≤ 2 := by decide
  exact ⟨deals, listAll_yields_slices (by decide) starts (by decide) chooses few long deals
    ⟨none, ()⟩⟩

/-- If both parameters have one name, the second page is taken for a short one because it is the
second, and the third record is lost. -/
theorem listAll_of_one_name :
    let query : Query := [("n", "1")]
    let url := "http://127.0.0.1/devices"
    let listed := (((readerOf (slicing "n" threeRecords 1)).listAll
      (numberedList url "n" "n" 1) query).perform ⟨none, ()⟩).1
    (query.filter fun pair => pair.1 == "n") =
        ((some 1).map fun page => ("n", Text.decimal page)).toList ∧
      Query.value? "n" query = (some 1).map decimalWord ∧
      threeRecords.length < UInt32.size ∧
      min (max (1 : UInt32).toNat 1) 10000 ≤ 1 ∧
      DealsSlices (readerOf (slicing "n" threeRecords 1)).session (fun _ _ => True) url "n"
        (besideNumber url "n" "n" 1 query) threeRecords 1 ∧
      listed ≠ .ok ((threeRecords.drop ((1 - 1) * 1)).take (max 5 1 * 1)) := by
  intro query url listed
  refine ⟨by decide, by decide, by decide, by decide,
    dealsSlices_slicing readBack_threeRecords .., ?_⟩
  have short : listed.toOption.map List.length = some 2 := by
    decide +kernel
  intro whole
  rw [whole] at short
  cases short

end Listing

end Client

end CloudAdmin
