import CloudAdmin.Proofs.Client.Interleaving
import CloudAdmin.Proofs.Client.Paging
import CloudAdmin.Proofs.Client.Visits
import CloudAdmin.Proofs.Json.RoundTrip
import CloudAdmin.Proofs.Url.Parsing

/-!
# Lists that are told by cursors

A page of such a list says by a cursor where the next one starts, and the client hands the cursor
back as it was told. A cursor may be any text: it comes as a text, as a number or inside the query
of a link, and goes out in the query of the next request. Main statement: whatever the cursors of a
list are, each request but the first carries just the cursor of the page before it, and the client
gets the records of all pages in their order, as many pages as it may read. The server may refuse
tokens at any time, as long as it accepts new ones.
-/

namespace CloudAdmin

/-- A list that is told by cursors: its pages but the last one, each with the cursor that it
announces, and the last page, which announces none. -/
structure Book where
  front : List (List Record × String)
  last : List Record

namespace Book

/-- All pages of a list. -/
def pages (book : Book) : List (List Record) :=
  book.front.map Prod.fst ++ [book.last]

/-- The cursors that are announced. -/
def cursors (book : Book) : List String :=
  book.front.map Prod.snd

/-- The requests for all pages: the first one, and those that carry the cursors. -/
def requests (first : Http.Request) (cursorParam : String) (book : Book) : List Http.Request :=
  first :: book.cursors.map fun cursor => first.withParam cursorParam cursor

/-- Whether no page is empty and no cursor either. -/
structure IsFilled (book : Book) : Prop where
  pages : ∀ page ∈ book.pages, page ≠ []
  cursors : ∀ cursor ∈ book.cursors, cursor ≠ ""

section Turning

variable {first request : Http.Request} {cursorParam : String} {index : Nat} {book : Book}

theorem length_requests (first : Http.Request) (cursorParam : String) (book : Book) :
    (book.requests first cursorParam).length = book.pages.length := by
  simp [requests, cursors, pages]

theorem exists_page (asked : (book.requests first cursorParam)[index]? = some request) :
    ∃ items, book.pages[index]? = some items := by
  have inRange := (List.getElem?_eq_some_iff.mp asked).1
  rw [length_requests] at inRange
  exact ⟨_, List.getElem?_eq_getElem inRange⟩

/-- A page that announces no cursor is the last one. -/
theorem length_le_of_cursors_eq_none (told : book.cursors[index]? = none) :
    book.pages.length ≤ index + 1 := by
  rw [List.getElem?_eq_none_iff] at told
  simpa [pages, cursors] using told

theorem requests_succ_of_told {cursor : String} (told : book.cursors[index]? = some cursor) :
    (book.requests first cursorParam)[index + 1]? = some (first.withParam cursorParam cursor) := by
  simp [requests, told]

/-- A cursor replaces the one before it, so the next request is the first one with the cursor. -/
theorem requests_succ (asked : (book.requests first cursorParam)[index]? = some request)
    {cursor : String} (told : book.cursors[index]? = some cursor) :
    (book.requests first cursorParam)[index + 1]? =
      some (request.withParam cursorParam cursor) := by
  rw [requests_succ_of_told told]
  cases index with
  | zero =>
      rcases Option.some.inj asked with rfl
      rfl
  | succ index =>
      rw [requests, List.getElem?_cons_succ, List.getElem?_map, Option.map_eq_some_iff] at asked
      rcases asked with ⟨before, -, rfl⟩
      rw [Http.Request.withParam_withParam]

end Turning

end Book

/-- The list of pages that are told by cursors. -/
def cursorList (url cursorParam itemsKey : String) (limit : Option (String × UInt32))
    (next : NextCursor) : Endpoint :=
  ⟨url, .cursor cursorParam limit itemsKey next⟩

/-- The member of a body that a cursor is in. -/
def NextCursor.member : NextCursor → String
  | .field name | .link name => name

namespace Page

/-- What a body announces: a cursor, or that there is none. A cursor is a text or a number, or it
stands in a link to anywhere, in the first pair of its name. -/
inductive Announces (cursorParam : String) : NextCursor → Json.Value → Option String → Prop where
  | text {name cursor : String} {body : Json.Value}
      (told : body.field? name = some (.string cursor)) :
      Announces cursorParam (.field name) body (some cursor)
  | number {name : String} {body : Json.Value} {number : Json.Number}
      (told : body.field? name = some (.number number)) :
      Announces cursorParam (.field name) body (some number.text)
  | link {name link cursor : String} {body : Json.Value} {url : Url}
      (told : body.field? name = some (.string link)) (read : Url.parse link = .ok url)
      (first : Query.value? cursorParam url.queryPairs = some cursor) :
      Announces cursorParam (.link name) body (some cursor)
  | nothing {next : NextCursor} {body : Json.Value}
      (told : body.field? next.member = none ∨ body.field? next.member = some .null ∨
        body.field? next.member = some (.string "")) :
      Announces cursorParam next body none
  | unlinked {name link : String} {body : Json.Value} {url : Url}
      (told : body.field? name = some (.string link)) (read : Url.parse link = .ok url)
      (without : Query.value? cursorParam url.queryPairs = none) :
      Announces cursorParam (.link name) body none

theorem cursorInLink?_of_parse {cursorParam link : String} {url : Url}
    (read : Url.parse link = .ok url) :
    cursorInLink? cursorParam link = Query.value? cursorParam url.queryPairs := by
  rw [cursorInLink?, read]

/-- A cursor is what is announced, or nothing that counts as one. -/
theorem Announces.filter_cursor? {cursorParam : String} {next : NextCursor} {body : Json.Value}
    {cursor : Option String} (announces : Announces cursorParam next body cursor)
    (told : ∀ text, cursor = some text → text ≠ "") :
    ((cursor? cursorParam next body).filter fun text => !text.isEmpty) = cursor := by
  have kept {text : String} (notEmpty : text ≠ "") :
      (some text).filter (fun text => !text.isEmpty) = some text := by
    simp [Option.filter, String.isEmpty_eq_false_iff.mpr notEmpty]
  cases announces with
  | text found =>
      simp only [cursor?, found]
      exact kept (told _ rfl)
  | number found =>
      simp only [cursor?, found]
      exact kept (told _ rfl)
  | link found read first =>
      simp only [cursor?, found, Option.bind_some, Json.Value.toString?,
        cursorInLink?_of_parse read, first]
      exact kept (told _ rfl)
  | nothing found =>
      have noLink : cursorInLink? cursorParam "" = none := rfl
      cases next with
      | field name =>
          rcases found with found | found | found <;>
            simp only [NextCursor.member] at found <;> simp [cursor?, found, Option.filter]
      | link name =>
          rcases found with found | found | found <;>
            simp only [NextCursor.member] at found <;>
            simp [cursor?, found, noLink, Json.Value.toString?]
  | unlinked found read without =>
      simp only [cursor?, found, Option.bind_some, Json.Value.toString?,
        cursorInLink?_of_parse read, without]
      rfl

end Page

namespace Client

section Serving

variable {authenticator : Authenticator} {transport : Transport} {first request : Http.Request}
  {url cursorParam itemsKey : String} {limit : Option (String × UInt32)} {next : NextCursor}
  {book : Book} {items : List Record} {cursor : Option String} {response : Http.Response}

/-- Whether a response brings a page with some records, and what it announces. -/
structure BringsPage (cursorParam itemsKey : String) (next : NextCursor) (items : List Record)
    (cursor : Option String) (response : Http.Response) : Prop where
  success : response.isSuccess = true
  body : ∃ body, Json.parse? response.body = some body ∧
    body.field? itemsKey = some (.array (items.map Record.toValue)) ∧
    Page.Announces cursorParam next body cursor

theorem BringsPage.readPage
    (brings : BringsPage cursorParam itemsKey next items cursor response) (notEmpty : items ≠ [])
    (told : ∀ text, cursor = some text → text ≠ "") :
    (cursorList url cursorParam itemsKey limit next).readPage request response =
      .ok ⟨items, cursor.map fun text => request.withParam cursorParam text⟩ := by
  rcases brings with ⟨success, body, parsed, listed, announces⟩
  have notBlank := Json.isBlankText_of_parse? parsed
  have found : Page.itemsAt itemsKey body = .ok items := by
    rw [Page.itemsAt, listed]
    exact Record.mapM_ofValue_map_toValue items
  have filled : items.isEmpty = false := List.isEmpty_eq_false_iff.mpr notEmpty
  simp only [Endpoint.readPage, Http.Response.check, success, if_true, Page.ofBody, notBlank,
    Bool.false_eq_true, if_false, parsed, cursorList, Page.ofValue, found, filled, Bool.not_false,
    Bool.and_true, bind, Except.bind, pure, Except.pure, announces.filter_cursor? told]

theorem BringsPage.status_ne (brings : BringsPage cursorParam itemsKey next items cursor response) :
    response.status ≠ 401 := by
  intro refused
  have success := brings.success
  rw [Http.Response.isSuccess, refused] at success
  cases success

/-- Whether a list is told by cursors to those who are let in. After what was sent so far the next
page is due: whoever is let in and asks for it gets it, and whoever is not let in is told so. Those
who log in are let in, and a page stays due until somebody gets it. How long one is let in is left
to the server. -/
structure TellsBook (authenticator : Authenticator) (transport : Transport) (first : Http.Request)
    (cursorParam itemsKey : String) (next : NextCursor) (book : Book)
    (accepts : Token → List Http.Request → Prop) (isDue : Nat → List Http.Request → Prop) :
    Prop where
  welcomes : ∀ index sent now, isDue index sent → ∃ login response token,
    authenticator.loginRequest now = .ok login ∧ transport (sent ++ [login]) = .ok response ∧
    authenticator.readLogin response now = .ok token ∧ accepts token (sent ++ [login]) ∧
    isDue index (sent ++ [login])
  answers : ∀ index sent (token : Token) request items, isDue index sent → accepts token sent →
    (book.requests first cursorParam)[index]? = some request → book.pages[index]? = some items →
    ∃ response, transport (sent ++ [token.authorize request]) = .ok response ∧
      BringsPage cursorParam itemsKey next items book.cursors[index]? response ∧
      isDue (index + 1) (sent ++ [token.authorize request])
  refuses : ∀ index sent (token : Token) request, isDue index sent → ¬accepts token sent →
    (book.requests first cursorParam)[index]? = some request →
    ∃ response, transport (sent ++ [token.authorize request]) = .ok response ∧
      response.status = 401 ∧ isDue index (sent ++ [token.authorize request])

variable {accepts : Token → List Http.Request → Prop} {isDue : Nat → List Http.Request → Prop}
  {kept left : Option Token} {now later : UInt64} {earlier sent : List Http.Request} {index : Nat}

/-- A token is always obtained, and it is let in if it is a new one. -/
theorem TellsBook.obtains
    (tells : TellsBook authenticator transport first cursorParam itemsKey next book accepts isDue)
    (due : isDue index earlier) {result : Except ApiError Token}
    (course : TokenCourse authenticator transport kept now earlier sent result) :
    ∃ token, result = .ok token ∧ isDue index (earlier ++ sent) ∧
      (kept = none → accepts token (earlier ++ sent)) := by
  rcases tells.welcomes index earlier now due with ⟨login, response, token, built, answered, read,
    letIn, stillDue⟩
  cases course with
  | @reused token present fresh =>
      refine ⟨token, rfl, by rwa [List.append_nil], fun nothing => ?_⟩
      rw [nothing] at present
      cases present
  | unbuilt stale unbuildable =>
      rw [built] at unbuildable
      cases unbuildable
  | unanswered stale built' failed =>
      obtain rfl := Except.ok.inj (built.symm.trans built')
      rw [answered] at failed
      cases failed
  | answered stale built' received =>
      obtain rfl := Except.ok.inj (built.symm.trans built')
      obtain rfl := Except.ok.inj (answered.symm.trans received)
      exact ⟨token, read, stillDue, fun _ => letIn⟩

/-- A request for the page that is due brings it or is refused, and then the page stays due. -/
theorem TellsBook.sends
    (tells : TellsBook authenticator transport first cursorParam itemsKey next book accepts isDue)
    (due : isDue index earlier) (asked : (book.requests first cursorParam)[index]? = some request)
    (found : book.pages[index]? = some items) {token : Token}
    (obtained : TokenCourse authenticator transport kept now earlier sent (.ok token)) :
    ∃ response, transport (earlier ++ (sent ++ [token.authorize request])) = .ok response ∧
      (BringsPage cursorParam itemsKey next items book.cursors[index]? response ∧
          isDue (index + 1) (earlier ++ (sent ++ [token.authorize request])) ∨
        response.status = 401 ∧ isDue index (earlier ++ (sent ++ [token.authorize request]))) := by
  rcases tells.obtains due obtained with ⟨-, -, ready, -⟩
  rw [← List.append_assoc]
  by_cases letIn : accepts token (earlier ++ sent)
  · rcases tells.answers index _ token request items ready letIn asked found
      with ⟨response, received, brings⟩
    exact ⟨response, received, .inl brings⟩
  · rcases tells.refuses index _ token request ready letIn asked
      with ⟨response, received, refused⟩
    exact ⟨response, received, .inr refused⟩

/-- A call for the page that is due brings it, if not with the first token then with the second. -/
theorem TellsBook.course_brings
    (tells : TellsBook authenticator transport first cursorParam itemsKey next book accepts isDue)
    (due : isDue index earlier) (asked : (book.requests first cursorParam)[index]? = some request)
    (found : book.pages[index]? = some items) {answer : Except ApiError Http.Response}
    (course : Course authenticator transport kept now later earlier request sent answer left) :
    ∃ response, answer = .ok response ∧
      BringsPage cursorParam itemsKey next items book.cursors[index]? response ∧
      isDue (index + 1) (earlier ++ sent) := by
  cases course with
  | withoutToken failed =>
      rcases tells.obtains due failed with ⟨token, succeeded, -⟩
      cases succeeded
  | @unanswered sent token error obtained failed =>
      rcases tells.sends due asked found obtained with ⟨response, answered, -⟩
      rw [answered] at failed
      cases failed
  | @accepted sent token response obtained received isAccepted =>
      rcases tells.sends due asked found obtained with ⟨other, answered, outcome⟩
      obtain rfl := Except.ok.inj (answered.symm.trans received)
      rcases outcome with ⟨brings, turned⟩ | ⟨refused, -⟩
      · exact ⟨other, rfl, brings, turned⟩
      · exact absurd refused isAccepted
  | @notRenewed sent renewal token response error obtained received isRefused failed =>
      rcases tells.sends due asked found obtained with ⟨other, answered, outcome⟩
      obtain rfl := Except.ok.inj (answered.symm.trans received)
      rcases outcome with ⟨brings, -⟩ | ⟨-, stillDue⟩
      · exact absurd isRefused brings.status_ne
      · rcases tells.obtains stillDue failed with ⟨renewed, succeeded, -⟩
        cases succeeded
  | @replayed sent renewal token renewed response obtained received isRefused obtainedAgain =>
      rcases tells.sends due asked found obtained with ⟨other, answered, outcome⟩
      obtain rfl := Except.ok.inj (answered.symm.trans received)
      rcases outcome with ⟨brings, -⟩ | ⟨-, stillDue⟩
      · exact absurd isRefused brings.status_ne
      · rcases tells.obtains stillDue obtainedAgain with ⟨again, same, readyAgain, letIn⟩
        obtain rfl := Except.ok.inj same
        rcases tells.answers index _ renewed request items readyAgain (letIn rfl) asked found
          with ⟨last, answeredAgain, brings, turned⟩
        simp only [List.append_assoc] at answeredAgain turned ⊢
        exact ⟨last, answeredAgain, brings, turned⟩

end Serving

section Walking

variable {authenticator : Authenticator} {transport : Transport} {first : Http.Request}
  {url cursorParam itemsKey : String} {limit : Option (String × UInt32)} {next : NextCursor}
  {book : Book} {accepts : Token → List Http.Request → Prop}
  {isDue : Nat → List Http.Request → Prop}

theorem drop_of_getElem?_eq_some {Item : Type} {items : List Item} {item : Item} {index : Nat}
    (found : items[index]? = some item) : items.drop index = item :: items.drop (index + 1) := by
  rw [List.drop_eq_getElem?_toList_append, found]
  rfl

/-- A walk that starts at the page that is due goes through the pages of the list from there on. -/
theorem exists_walk_of_tells {clock : Nat → UInt64} (client : Client Traffic)
    (session : client.session = ⟨transport.host clock, authenticator⟩)
    (tells : TellsBook authenticator transport first cursorParam itemsKey next book accepts isDue)
    (filled : book.IsFilled) (url : String) (limit : Option (String × UInt32)) (count index : Nat)
    (request : Http.Request) (kept : Option Token) (earlier : List Http.Request) (readings : Nat)
    (due : isDue index earlier) (asked : (book.requests first cursorParam)[index]? = some request) :
    let endpoint := cursorList url cursorParam itemsKey limit next
    let ended := (client.walk endpoint count request).perform ⟨kept, ⟨earlier, readings⟩⟩
    ∃ visits, AreMade authenticator transport earlier visits ∧
      visits.map Visit.request = ((book.requests first cursorParam).drop index).take count ∧
      ended.1 = .ok ((book.pages.drop index).take count).flatten ∧
      ended.2.world.sent = earlier ++ visits.flatMap Visit.sent := by
  intro endpoint
  -- The page that is due moves on with each visit, whatever has been sent to get there.
  induction count generalizing index request kept earlier readings with
  | zero => exact ⟨[], .nil, by simp, by simp [walk], by simp [walk]⟩
  | succ count ih =>
      rcases exists_visit client session endpoint request kept earlier readings
        with ⟨visit, now, renewed, left, after, rfl, course, performed⟩
      rcases Book.exists_page asked with ⟨items, found⟩
      rcases tells.course_brings due asked found course with ⟨response, answered, brings, turned⟩
      have notEmpty : items ≠ [] := filled.pages items (List.mem_of_getElem? found)
      have told : ∀ text, book.cursors[index]? = some text → text ≠ "" :=
        fun text told => filled.cursors text (List.mem_of_getElem? told)
      have read : visit.page endpoint = .ok ⟨items, book.cursors[index]?.map fun text =>
          visit.request.withParam cursorParam text⟩ := by
        rw [Visit.page, answered]
        exact brings.readPage notEmpty told
      simp only [walk, Action.perform_bind, performed, read, drop_of_getElem?_eq_some found,
        drop_of_getElem?_eq_some asked, List.take_succ_cons]
      cases announced : book.cursors[index]? with
      | none =>
          have last := Book.length_le_of_cursors_eq_none announced
          refine ⟨[visit], .cons course .nil, ?_, ?_, by simp⟩
          · rw [List.drop_of_length_le (by rwa [Book.length_requests])]
            simp
          · rw [List.drop_of_length_le last]
            simp
      | some cursor =>
          rcases ih (index + 1) _ left (earlier ++ visit.sent) after turned
            (Book.requests_succ asked announced) with ⟨visits, made, asks, result, sent⟩
          refine ⟨visit :: visits, .cons course made, by rw [List.map_cons, asks], ?_, ?_⟩
          · simp only [Option.map_some, Action.perform_bind]
            rcases walked : (client.walk _ count _).perform _ with ⟨others, final⟩
            rw [walked] at result
            obtain rfl := result
            rfl
          · rw [List.flatMap_cons, ← List.append_assoc, ← sent]
            simp only [Option.map_some, Action.perform_bind]
            rcases (client.walk _ count _).perform _ with ⟨_ | _, _⟩ <;> rfl

end Walking

section Listing

/-- A client that lists pages which are told by cursors asks for one after the other, and as many as
it may read: the first request is that of the list, and each other one carries just the cursor of
the page before it, also as it stands in the URL. The client gets the records of these pages in
their order. -/
theorem listAll_follows_cursors (authenticator : Authenticator) (transport : Transport)
    (clock : Nat → UInt64) (routes : Routes) (maxPages : Nat) (url cursorParam itemsKey : String)
    (limit : Option (String × UInt32)) (next : NextCursor) (query : Query) (kept : Option Token)
    (earlier : List Http.Request) (readings : Nat) {book : Book} (filled : book.IsFilled)
    {accepts : Token → List Http.Request → Prop} {isDue : Nat → List Http.Request → Prop}
    (tells : TellsBook authenticator transport
      ((cursorList url cursorParam itemsKey limit next).listRequest query) cursorParam itemsKey next
      book accepts isDue)
    (due : isDue 0 earlier) :
    let endpoint := cursorList url cursorParam itemsKey limit next
    let client : Client Traffic := ⟨⟨transport.host clock, authenticator⟩, routes, maxPages⟩
    let ended := (client.listAll endpoint query).perform ⟨kept, ⟨earlier, readings⟩⟩
    ∃ visits, AreMade authenticator transport earlier visits ∧
      visits.map Visit.request =
        (book.requests (endpoint.listRequest query) cursorParam).take (max maxPages 1) ∧
      (∀ index visit cursor, visits[index + 1]? = some visit → book.cursors[index]? = some cursor →
        (visit.request.query.filter fun pair => pair.1 == cursorParam) = [(cursorParam, cursor)]) ∧
      (∀ visit ∈ visits, ∀ base, Url.parse url = .ok base → ∃ target,
        visit.request.fullUrl = .ok target ∧
          target.queryPairs = base.queryPairs ++ visit.request.query) ∧
      ended.1 = .ok (book.pages.take (max maxPages 1)).flatten ∧
      ended.2.world.sent = earlier ++ visits.flatMap Visit.sent := by
  intro endpoint client ended
  rcases exists_walk_of_tells client rfl tells filled url limit (max maxPages 1) 0
    (endpoint.listRequest query) kept earlier readings due rfl
    with ⟨visits, made, asks, result, sent⟩
  rw [List.drop_zero] at asks result
  refine ⟨visits, made, asks, ?_, ?_, result, sent⟩
  · intro index visit cursor found told
    have asked : (visits.map Visit.request)[index + 1]? = some visit.request := by
      rw [List.getElem?_map, found]
      rfl
    rw [asks, List.getElem?_take] at asked
    split at asked
    · rw [Book.requests_succ_of_told told] at asked
      rcases Option.some.inj asked with same
      rw [← same]
      exact Http.Request.filter_withParam_self ..
    · cases asked
  · intro visit member base read
    have asked : visit.request ∈ book.requests (endpoint.listRequest query) cursorParam :=
      List.mem_of_mem_take (asks ▸ List.mem_map_of_mem member)
    have sameUrl : visit.request.url = url := by
      rcases List.mem_cons.mp asked with first | later
      · rw [first]
        rfl
      · rcases List.mem_map.mp later with ⟨cursor, -, same⟩
        rw [← same]
        rfl
    refine ⟨base.appendPairs visit.request.query, ?_, Url.queryPairs_appendPairs _ _⟩
    rw [Http.Request.fullUrl, sameUrl, read]

/-- A cursor of characters that have a meaning in URLs, and of one that is not ASCII. -/
def strangeCursor : String := "+/=&% ü"

/-- A link to another host with the cursor between other pairs. -/
def strangeLink : String :=
  String.ofList ("https".toList ++ ':' :: '/' :: '/' :: ("next.example".toList ++ ("/list".toList ++
    '?' :: (Url.renderForm [("a", "1"), ("cursor", strangeCursor), ("b", "2")]).toList)))

/-- A list of two pages with one record each. -/
def strangeBook : Book :=
  ⟨[([⟨[("id", .ofWord 1)]⟩], strangeCursor)], [⟨[("id", .ofWord 2)]⟩]⟩

/-- The list of the two pages, as the client has it. -/
def strangeList : Endpoint :=
  cursorList "http://127.0.0.1/devices" "cursor" "items" none (.link "next")

/-- A body with some records, and with the link unless it is the last one. -/
def strangeBody (records : List Record) (isLast : Bool) : Json.Value :=
  .ofFields [("items", .array (records.map Record.toValue)),
    ("next", if isLast then .null else .string strangeLink)]

/-- A server that lets everybody in and answers by the cursor alone. -/
def turning : Transport := fun sent =>
  match sent.getLast? with
  | none => .ok loginAnswer
  | some request =>
      if request.method = .post then .ok loginAnswer
      else if request.queryValue? "cursor" = some strangeCursor then
        .ok ⟨200, [], (strangeBody strangeBook.last true).text⟩
      else .ok ⟨200, [], (strangeBody [⟨[("id", .ofWord 1)]⟩] false).text⟩

theorem bringsPage_strangeBody {word : UInt64} {isLast : Bool} {cursor : Option String}
    (announces : Page.Announces "cursor" (.link "next")
      (strangeBody [⟨[("id", .ofWord word)]⟩] isLast) cursor) :
    BringsPage "cursor" "items" (.link "next") [⟨[("id", .ofWord word)]⟩] cursor
      ⟨200, [], (strangeBody [⟨[("id", .ofWord word)]⟩] isLast).text⟩ := by
  have readBack : (strangeBody [⟨[("id", .ofWord word)]⟩] isLast).ReadsBack Json.nestingLimit := by
    apply Json.Value.ReadsBack.ofFields
    intro field member
    simp only [List.mem_cons, List.not_mem_nil, or_false] at member
    rcases member with rfl | rfl
    · refine .array fun value inArray => ?_
      rcases List.mem_singleton.mp inArray with rfl
      refine .object (List.pairwise_singleton ..) fun field inRecord => ?_
      rcases List.mem_singleton.mp inRecord with rfl
      exact .ofWord word
    · cases isLast
      · exact .string _
      · exact .null
  refine ⟨rfl, _, readBack.parse?_text, ?_, announces⟩
  simp [strangeBody, Json.Value.ofFields, Json.Value.field?, Assoc.find?_ofList]

theorem announces_strangeLink :
    Page.Announces "cursor" (.link "next") (strangeBody [⟨[("id", .ofWord 1)]⟩] false)
      (some strangeCursor) := by
  have host : Url.parseAuthority "https".toList "next.example".toList true =
      .ok (⟨[], .name "next.example".toList, none⟩, []) :=
    eq_ok_of_toOption (by decide +kernel)
  have isHost : Url.IsHostText "next.example".toList := by
    have all : "next.example".toList.all
        (fun c => !Url.endsAuthority true c && !Url.isIgnored c) = true := by
      decide
    intro c member
    simpa using List.all_eq_true.mp all c member
  have starts : ∀ c, "/list".toList.head? = some c → c = '/' :=
    fun c found => (Option.some.inj found).symm
  have noQuery : '?' ∉ "/list".toList := by decide
  have noFragment : '#' ∉ "/list".toList := by decide
  rcases Url.queryPairs_of_link (by decide) isHost host starts noQuery noFragment
    [("a", "1"), ("cursor", strangeCursor), ("b", "2")] with ⟨url, parsed, pairs⟩
  have read : Url.parse strangeLink = .ok url :=
    (congrArg Url.parseChars String.toList_ofList).trans parsed
  refine .link ?_ read (by rw [pairs]; rfl)
  simp [strangeBody, Json.Value.ofFields, Json.Value.field?, Assoc.find?_ofList]

theorem tellsBook_turning :
    TellsBook deviceAdministrator turning (strangeList.listRequest []) "cursor" "items"
      (.link "next") strangeBook (fun _ _ => True) (fun _ _ => True) where
  welcomes index sent now due := by
    obtain ⟨login, built, posted⟩ : ∃ login, deviceAdministrator.loginRequest now = .ok login ∧
        login.method = .post := ⟨_, rfl, rfl⟩
    refine ⟨login, loginAnswer, _, built, ?_, readLogin_loginAnswer now, trivial, trivial⟩
    simp [turning, posted]
  answers index sent token request items due letIn asked found := by
    match index with
    | 0 =>
        rcases Option.some.inj asked with rfl
        rcases Option.some.inj found with rfl
        refine ⟨_, ?_, bringsPage_strangeBody announces_strangeLink, trivial⟩
        have isRead : (token.authorize (strangeList.listRequest [])).method = .get := rfl
        have noCursor : (token.authorize (strangeList.listRequest [])).queryValue? "cursor" =
            none := rfl
        simp [turning, isRead, noCursor]
    | 1 =>
        rcases Option.some.inj asked with rfl
        rcases Option.some.inj found with rfl
        have nothing : Page.Announces "cursor" (.link "next")
            (strangeBody [⟨[("id", .ofWord 2)]⟩] true) none := by
          apply Page.Announces.nothing
          simp [strangeBody, Json.Value.ofFields, Json.Value.field?, Assoc.find?_ofList,
            NextCursor.member]
        refine ⟨_, ?_, bringsPage_strangeBody nothing, trivial⟩
        have isRead : (token.authorize
            ((strangeList.listRequest []).withParam "cursor" strangeCursor)).method = .get := rfl
        have given : (token.authorize ((strangeList.listRequest []).withParam "cursor"
            strangeCursor)).queryValue? "cursor" = some strangeCursor := rfl
        simp [turning, isRead, given, strangeBook]
    | index + 2 => cases asked
  refuses _ _ _ _ _ refused := absurd trivial refused

/-- Both pages are read, although the cursor is written in other characters in the link and in the
request. -/
theorem listAll_follows_cursors_of_strangeBook :
    let client : Client Traffic := ⟨⟨turning.host fun _ => 0, deviceAdministrator⟩,
      .ownHost .zcc "http://127.0.0.1" none, 5⟩
    ((client.listAll strangeList []).perform ⟨none, ⟨[], 0⟩⟩).1 =
      .ok [⟨[("id", .ofWord 1)]⟩, ⟨[("id", .ofWord 2)]⟩] := by
  intro client
  have filled : strangeBook.IsFilled := ⟨by decide, by decide⟩
  rcases listAll_follows_cursors deviceAdministrator turning (fun _ => 0)
    (.ownHost .zcc "http://127.0.0.1" none) 5 "http://127.0.0.1/devices" "cursor" "items" none
    (.link "next") [] none [] 0 filled tellsBook_turning trivial with ⟨-, -, -, -, -, result, -⟩
  exact result

end Listing

end Client

end CloudAdmin
