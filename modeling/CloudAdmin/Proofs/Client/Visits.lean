import Mathlib.Data.List.Chain
import CloudAdmin.Proofs.Client.Replay
import CloudAdmin.Proofs.Pagination

/-!
# Walks against arbitrary servers

A client asks for the pages of a list one after the other, and a server may answer each request with
anything at all. A walk is told here as a list of visits, one for each page that was asked for.
Main statement: whatever the server answers, there are no more visits than the client may make, each
one goes to the page that the one before it led to, and all the client can be made to change between
them is the mark of the page. The walk yields the items of all visits or the first failure.
-/

namespace CloudAdmin

namespace Page

/-- Whether requests follow each other in a walk: nothing changes between them but their marks, and
where pages are numbered, the marks count up. A mark that is set anew comes last. -/
structure OnlyMarksChange (pagination : Pagination) (first : Http.Request)
    (requests : List Http.Request) : Prop where
  frame : ∀ request ∈ requests, request.IsOtherPageOf first
  marked : ∀ request ∈ requests.tail, ∃ mark value, pagination.mark? = some mark ∧
    request.query = (first.query.filter fun pair => pair.1 != mark) ++ [(mark, value)]
  numbered : ∀ pageParam firstPage, pagination.numbering? = some (pageParam, firstPage) →
    ∀ index request, requests[index + 1]? = some request →
      request.query = (first.query.filter fun pair => pair.1 != pageParam) ++
        [(pageParam, Text.decimal
          ((first.pageNumber pageParam firstPage).toNat + (index + 1)))]

theorem filter_withParam (name value : String) (request : Http.Request) :
    ((request.withParam name value).query.filter fun pair => pair.1 != name) =
      request.query.filter fun pair => pair.1 != name := by
  simp [Http.Request.withParam, List.filter_append, List.filter_filter]

section Changes

variable {pagination : Pagination} {first next : Http.Request} {rest : List Http.Request}

theorem OnlyMarksChange.nil : OnlyMarksChange pagination first [] where
  frame _ member := by cases member
  marked _ member := by cases member
  numbered _ _ _ _ _ found := by cases found

theorem OnlyMarksChange.single : OnlyMarksChange pagination first [first] where
  frame request member := ⟨first.query, List.mem_singleton.mp member⟩
  marked _ member := by cases member
  numbered _ _ _ _ _ found := by cases found

/-- What holds of a walk that starts one page later holds of the whole walk. -/
theorem OnlyMarksChange.cons (follows : Follows pagination first next)
    (changes : OnlyMarksChange pagination next (next :: rest)) :
    OnlyMarksChange pagination first (first :: next :: rest) := by
  rcases follows with ⟨mark, value, isMark, rfl, counts⟩
  refine ⟨?_, ?_, ?_⟩
  · intro request member
    rcases List.mem_cons.mp member with rfl | later
    · exact ⟨_, rfl⟩
    · rcases changes.frame request later with ⟨query, rfl⟩
      exact ⟨query, rfl⟩
  · intro request member
    rcases List.mem_cons.mp member with rfl | later
    · exact ⟨mark, value, isMark, rfl⟩
    · rcases changes.marked request later with ⟨other, found, isOther, query⟩
      obtain rfl : mark = other := Option.some.inj (isMark.symm.trans isOther)
      exact ⟨mark, found, isMark, by rw [query, filter_withParam]⟩
  · intro pageParam firstPage isNumbered index request found
    rcases counts pageParam firstPage isNumbered with ⟨rfl, number, rfl, counted⟩
    cases index with
    | zero =>
        rcases Option.some.inj found with rfl
        rw [Nat.zero_add, ← counted]
        rfl
    | succ index =>
        have later := changes.numbered pageParam firstPage isNumbered index request found
        rw [filter_withParam, Http.Request.pageNumber_withParam, counted] at later
        rw [later, Nat.add_assoc, Nat.add_comm 1]

end Changes

end Page

namespace Client

/-- A page that a walk asked for: the request for the page, everything that was sent to get it, and
how that ended. -/
structure Visit where
  request : Http.Request
  sent : List Http.Request
  answer : Except ApiError Http.Response

def Visit.page (endpoint : Endpoint) (visit : Visit) : Except ApiError Page := do
  let response ← visit.answer
  endpoint.readPage visit.request response

/-- Whether visits to the pages of a list make up a walk: it starts with some request, each visit
leads to the next one, and it ends where a visit leads nowhere, unless it has reached its limit. -/
structure IsWalk (endpoint : Endpoint) (first : Http.Request) (limit : Nat)
    (visits : List Visit) : Prop where
  starts : 0 < limit → visits ≠ []
  first : ∀ visit, visits.head? = some visit → visit.request = first
  linked : visits.IsChain fun visit later =>
    ∃ page, visit.page endpoint = .ok page ∧ page.next = some later.request
  bounded : visits.length ≤ limit
  ends : ∀ visit page, visits.getLast? = some visit → visit.page endpoint = .ok page →
    page.next ≠ none → visits.length = limit

/-- Whether visits take the course that the transport lets them take, after what was sent earlier:
nothing but logins is sent, and the requests for the pages with a token. -/
structure AreMade (authenticator : Authenticator) (transport : Transport)
    (earlier : List Http.Request) (visits : List Visit) : Prop where
  course : ∀ before visit later, visits = before ++ visit :: later →
    ∃ kept now renewed left, Course authenticator transport kept now renewed
      (earlier ++ before.flatMap Visit.sent) visit.request visit.sent visit.answer left
  sends : ∀ visit ∈ visits, ∀ request ∈ visit.sent,
    (∃ now, authenticator.loginRequest now = .ok request) ∨
      ∃ token : Token, request = token.authorize visit.request

section Steps

variable {authenticator : Authenticator} {transport : Transport} {endpoint : Endpoint}
  {first : Http.Request} {limit : Nat} {earlier : List Http.Request} {visit : Visit}
  {visits : List Visit} {page : Page}

theorem IsWalk.nil : IsWalk endpoint first 0 [] where
  starts positive := absurd positive (Nat.lt_irrefl 0)
  first _ found := by cases found
  linked := .nil
  bounded := Nat.le_refl 0
  ends _ _ found := by cases found

/-- A walk of one visit ends there, because the visit fails or leads nowhere. -/
theorem IsWalk.single (leadsNowhere : ∀ page, visit.page endpoint = .ok page → page.next = none) :
    IsWalk endpoint visit.request (limit + 1) [visit] where
  starts _ := List.cons_ne_nil _ _
  first _ found := Option.some.inj found ▸ rfl
  linked := .singleton _
  bounded := Nat.succ_le_succ (Nat.zero_le _)
  ends _ page found read goesOn := by
    rcases Option.some.inj found with rfl
    exact absurd (leadsNowhere page read) goesOn

theorem IsWalk.cons (read : visit.page endpoint = .ok page) (found : page.next = some first)
    (walk : IsWalk endpoint first limit visits) :
    IsWalk endpoint visit.request (limit + 1) (visit :: visits) where
  starts _ := List.cons_ne_nil _ _
  first _ isHead := Option.some.inj isHead ▸ rfl
  linked := by
    refine List.isChain_cons.mpr ⟨?_, walk.linked⟩
    intro next isNext
    exact ⟨page, read, by rw [found, walk.first next isNext]⟩
  bounded := Nat.succ_le_succ walk.bounded
  ends last lastPage isLast readLast goesOn := by
    cases visits with
    | nil =>
        -- This page leads on, but nothing was asked for after it: there were no pages left.
        have noneLeft : limit = 0 := by
          by_contra positive
          exact walk.starts (Nat.pos_of_ne_zero positive) rfl
        rw [noneLeft]
        rfl
    | cons next rest =>
        rw [List.getLast?_cons_cons] at isLast
        exact congrArg Nat.succ (walk.ends last lastPage isLast readLast goesOn)

theorem AreMade.nil : AreMade authenticator transport earlier [] where
  course _ _ _ split := by simp at split
  sends _ member := by cases member

/-- A visit that takes its course may come before visits that are made after it. -/
theorem AreMade.cons {kept left : Option Token} {now renewed : UInt64}
    (course : Course authenticator transport kept now renewed earlier visit.request visit.sent
      visit.answer left)
    (made : AreMade authenticator transport (earlier ++ visit.sent) visits) :
    AreMade authenticator transport earlier (visit :: visits) where
  course before other later split := by
    cases before with
    | nil =>
        rcases List.cons.inj split with ⟨rfl, rfl⟩
        exact ⟨kept, now, renewed, left, by simpa using course⟩
    | cons head before =>
        rcases List.cons.inj split with ⟨rfl, rest⟩
        have follows := made.course before other later rest
        rwa [List.append_assoc, ← List.flatMap_cons] at follows
  sends other member request sent := by
    rcases List.mem_cons.mp member with rfl | later
    · exact course.mem_sent sent
    · exact made.sends other later request sent

theorem IsWalk.onlyMarksChange (walk : IsWalk endpoint first limit visits) :
    Page.OnlyMarksChange endpoint.pagination first (visits.map Visit.request) := by
  -- The rest of a walk starts elsewhere and may be shorter, but it is linked in the same way.
  have linked := walk.linked
  have starts := walk.first
  clear walk
  induction visits generalizing first with
  | nil => exact .nil
  | cons visit rest ih =>
      obtain rfl := starts visit rfl
      cases rest with
      | nil => exact .single
      | cons next rest =>
          rcases List.isChain_cons_cons.mp linked with ⟨⟨page, read, found⟩, later⟩
          rcases exists_of_bind_eq_ok read with ⟨response, -, readPage⟩
          refine .cons (Endpoint.follows_of_readPage readPage found) ?_
          exact ih later fun other isHead => Option.some.inj isHead ▸ rfl

end Steps

/-- Whatever is answered to a request, the client makes a visit for it. -/
theorem exists_execution {authenticator : Authenticator} {transport : Transport}
    {clock : Nat → UInt64} (client : Client Traffic)
    (session : client.session = ⟨transport.host clock, authenticator⟩) (request : Http.Request)
    (kept : Option Token) (earlier : List Http.Request) (readings : Nat) :
    ∃ (visit : Visit) (now renewed : UInt64) (left : Option Token) (later : Nat),
      visit.request = request ∧
      Course authenticator transport kept now renewed earlier visit.request visit.sent visit.answer
        left ∧
      (client.execute request).perform ⟨kept, ⟨earlier, readings⟩⟩ =
        (visit.answer, ⟨left, ⟨earlier ++ visit.sent, later⟩⟩) := by
  rcases exists_course authenticator transport kept (clock readings) (clock (readings + 1)) earlier
    request with ⟨sent, answer, left, course⟩
  rcases course.perform_execute client session with ⟨later, performed⟩
  exact ⟨⟨request, sent, answer⟩, _, _, left, later, rfl, course, performed⟩

theorem exists_visit {authenticator : Authenticator} {transport : Transport}
    {clock : Nat → UInt64} (client : Client Traffic)
    (session : client.session = ⟨transport.host clock, authenticator⟩) (endpoint : Endpoint)
    (request : Http.Request) (kept : Option Token) (earlier : List Http.Request) (readings : Nat) :
    ∃ (visit : Visit) (now renewed : UInt64) (left : Option Token) (later : Nat),
      visit.request = request ∧
      Course authenticator transport kept now renewed earlier visit.request visit.sent visit.answer
        left ∧
      (client.readPage endpoint request).perform ⟨kept, ⟨earlier, readings⟩⟩ =
        (visit.page endpoint, ⟨left, ⟨earlier ++ visit.sent, later⟩⟩) := by
  rcases exists_execution client session request kept earlier readings
    with ⟨⟨asked, sent, answer⟩, now, renewed, left, later, rfl, course, performed⟩
  refine ⟨⟨asked, sent, answer⟩, now, renewed, left, later, rfl, course, ?_⟩
  rw [readPage, Action.perform_bind, performed]
  cases answer with
  | error error => rfl
  | ok response => rfl

def collect (endpoint : Endpoint) (visits : List Visit) : Except ApiError (List Record) :=
  (visits.mapM (Visit.page endpoint)).map fun pages => pages.flatMap Page.items

theorem collect_nil (endpoint : Endpoint) : collect endpoint [] = .ok [] := rfl

theorem collect_cons_of_error {endpoint : Endpoint} {visit : Visit} {error : ApiError}
    (failed : visit.page endpoint = .error error) (visits : List Visit) :
    collect endpoint (visit :: visits) = .error error := by
  rw [collect, List.mapM_cons, failed]
  rfl

theorem collect_cons_of_ok {endpoint : Endpoint} {visit : Visit} {page : Page}
    (read : visit.page endpoint = .ok page) (visits : List Visit) :
    collect endpoint (visit :: visits) =
      (collect endpoint visits).map fun items => page.items ++ items := by
  rw [collect, collect, List.mapM_cons, read]
  cases visits.mapM (Visit.page endpoint) with
  | error error => rfl
  | ok pages => rfl

/-- A walk of the client is a walk in visits, from whatever request it starts and however many pages
are left. -/
theorem exists_walk {authenticator : Authenticator} {transport : Transport}
    {clock : Nat → UInt64} (client : Client Traffic)
    (session : client.session = ⟨transport.host clock, authenticator⟩) (endpoint : Endpoint)
    (pages : Nat) (request : Http.Request) (kept : Option Token) (earlier : List Http.Request)
    (readings : Nat) :
    let ended := (client.walk endpoint pages request).perform ⟨kept, ⟨earlier, readings⟩⟩
    ∃ visits, IsWalk endpoint request pages visits ∧
      AreMade authenticator transport earlier visits ∧
      ended.1 = collect endpoint visits ∧
      ended.2.world.sent = earlier ++ visits.flatMap Visit.sent := by
  -- A walk goes on wherever the visits before it have led: any request, and any state.
  induction pages generalizing request kept earlier readings with
  | zero => exact ⟨[], .nil, .nil, rfl, by simp [walk]⟩
  | succ pages ih =>
      rcases exists_visit client session endpoint request kept earlier readings
        with ⟨visit, now, renewed, left, later, rfl, course, performed⟩
      simp only [walk, Action.perform_bind, performed]
      cases read : visit.page endpoint with
      | error error =>
          refine ⟨[visit], .single (by simp [read]), .cons course .nil, ?_, by simp⟩
          exact (collect_cons_of_error read []).symm
      | ok page =>
          rcases page with ⟨items, _ | next⟩
          · refine ⟨[visit], .single ?_, .cons course .nil, ?_, by simp⟩
            · intro other same
              rw [read] at same
              rw [← Except.ok.inj same]
            · rw [collect_cons_of_ok read, collect_nil]
              simp [Except.map]
          · rcases ih next left (earlier ++ visit.sent) later
              with ⟨visits, isWalk, areMade, result, sent⟩
            refine ⟨visit :: visits, .cons read rfl isWalk, .cons course areMade, ?_, ?_⟩
            · rw [collect_cons_of_ok read, ← result]
              simp only [Action.perform_bind]
              rcases (client.walk endpoint pages next).perform _ with ⟨_ | _, _⟩ <;> rfl
            · rw [List.flatMap_cons, ← List.append_assoc, ← sent]
              simp only [Action.perform_bind]
              rcases (client.walk endpoint pages next).perform _ with ⟨_ | _, _⟩ <;> rfl

/-- Whatever is answered, reading a list is a walk in at least one visit and at most as many as
there may be. Nothing but the mark changes between its requests, and it yields the items on all
pages or the failure that ended it. -/
theorem listAll_visits (authenticator : Authenticator) (transport : Transport)
    (clock : Nat → UInt64) (routes : Routes) (maxPages : Nat) (endpoint : Endpoint) (query : Query)
    (kept : Option Token) (earlier : List Http.Request) (readings : Nat) :
    let client : Client Traffic := ⟨⟨transport.host clock, authenticator⟩, routes, maxPages⟩
    let ended := (client.listAll endpoint query).perform ⟨kept, ⟨earlier, readings⟩⟩
    ∃ visits, IsWalk endpoint (endpoint.listRequest query) (max maxPages 1) visits ∧
      AreMade authenticator transport earlier visits ∧
      Page.OnlyMarksChange endpoint.pagination (endpoint.listRequest query)
        (visits.map Visit.request) ∧
      ended.1 = (visits.mapM (Visit.page endpoint)).map (fun pages => pages.flatMap Page.items) ∧
      ended.2.world.sent = earlier ++ visits.flatMap Visit.sent := by
  intro client ended
  rcases exists_walk client rfl endpoint (max maxPages 1) (endpoint.listRequest query) kept earlier
    readings with ⟨visits, isWalk, areMade, result, sent⟩
  exact ⟨visits, isWalk, areMade, isWalk.onlyMarksChange, result, sent⟩

end Client

end CloudAdmin
