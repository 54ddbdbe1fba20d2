import CloudAdmin.Endpoint
import CloudAdmin.Proofs.Result
import CloudAdmin.Proofs.Text.Numeral

/-!
# Requests for the next page

A page is read from a body that the server is free to choose, and so is the request for the page
after it. All that the server can choose about that request is the value of one parameter, the mark
of the paging strategy: the request is the one for this page with its mark set anew. Where pages are
numbered the server cannot even choose the value, which is the next number.
-/

namespace CloudAdmin

namespace Pagination

/-- The parameter that marks where a page starts, if there is ever more than one page. -/
def mark? : Pagination → Option String
  | .single | .envelope _ => none
  | .pageNumber pageParam _ _ _ => some pageParam
  | .countedPages _ => some "page"
  | .cursor cursorParam _ _ _ => some cursorParam

/-- The parameter that holds the number of a page and the number of the first page, if pages are
numbered. -/
def numbering? : Pagination → Option (String × UInt32)
  | .pageNumber pageParam _ _ firstPage => some (pageParam, firstPage)
  | .countedPages _ => some ("page", 1)
  | .single | .envelope _ | .cursor _ _ _ _ => none

end Pagination

namespace Http.Request

/-- Whether a request is another one with a query of its own. -/
def IsOtherPageOf (other request : Http.Request) : Prop :=
  ∃ query, other = { request with query }

theorem isOtherPageOf_withParam (name value : String) (request : Http.Request) :
    (request.withParam name value).IsOtherPageOf request :=
  ⟨_, rfl⟩

theorem queryValue?_withParam (name value : String) (request : Http.Request) :
    (request.withParam name value).queryValue? name = some value := by
  have none : (request.query.filter fun pair => pair.1 != name).find? (·.1 == name) = none := by
    rw [List.find?_filter, List.find?_eq_none]
    intro pair _
    by_cases same : pair.1 = name <;> simp [same]
  simp [queryValue?, withParam, List.find?_append, none]

theorem pageNumber_withParam (pageParam : String) (firstPage page : UInt32)
    (request : Http.Request) :
    (request.withParam pageParam (decimalWord page)).pageNumber pageParam firstPage = page := by
  rw [pageNumber, queryValue?_withParam, Option.bind_some, Text.toWord32?_decimalWord,
    Option.getD_some]

/-- The page after a numbered page has the next number, in words as in numbers. -/
theorem eq_of_nextPage? {pageParam : String} {firstPage : UInt32} {request next : Http.Request}
    (found : request.nextPage? pageParam firstPage = some next) :
    ∃ page, next = request.withParam pageParam (decimalWord page) ∧
      page.toNat = (request.pageNumber pageParam firstPage).toNat + 1 := by
  simp only [nextPage?] at found
  split at found
  · rename_i fits
    refine ⟨_, (Option.some.inj found).symm, ?_⟩
    rw [UInt32.toNat_add]
    exact Nat.mod_eq_of_lt fits
  · cases found

end Http.Request

namespace Page

variable {pagination : Pagination} {request next : Http.Request} {page : Page}

/-- Whether a request may be followed by another one in a walk: the other one is the same but for
its mark, and where pages are numbered, its number is the next one. -/
def Follows (pagination : Pagination) (request next : Http.Request) : Prop :=
  ∃ mark value, pagination.mark? = some mark ∧ next = request.withParam mark value ∧
    ∀ pageParam firstPage, pagination.numbering? = some (pageParam, firstPage) →
      pageParam = mark ∧ ∃ number, value = decimalWord number ∧
        number.toNat = (request.pageNumber pageParam firstPage).toNat + 1

/-- Where pages are numbered, the request for the next page follows the one for this page. -/
theorem follows_of_nextPage? {pageParam : String} {firstPage : UInt32}
    (isMark : pagination.mark? = some pageParam)
    (isNumbered : pagination.numbering? = some (pageParam, firstPage))
    (found : request.nextPage? pageParam firstPage = some next) :
    Follows pagination request next := by
  rcases Http.Request.eq_of_nextPage? found with ⟨number, rfl, counted⟩
  refine ⟨pageParam, _, isMark, rfl, ?_⟩
  intro otherParam otherPage sameNumbering
  rcases Option.some.inj (isNumbered.symm.trans sameNumbering) with ⟨rfl, rfl⟩
  exact ⟨rfl, number, rfl, counted⟩

theorem follows_of_ofValue {body : Json.Value}
    (read : ofValue pagination request body = .ok page) (found : page.next = some next) :
    Follows pagination request next := by
  cases pagination with
  | single =>
      rcases exists_of_bind_eq_ok read with ⟨items, -, same⟩
      rcases Except.ok.inj same with rfl
      cases found
  | envelope itemsKey =>
      rcases exists_of_bind_eq_ok read with ⟨items, -, same⟩
      rcases Except.ok.inj same with rfl
      cases found
  | pageNumber pageParam sizeParam pageSize firstPage =>
      rcases exists_of_bind_eq_ok read with ⟨items, -, same⟩
      rcases Except.ok.inj same with rfl
      exact follows_of_nextPage? rfl rfl (Option.ite_none_right_eq_some.mp found).2
  | countedPages pageSize =>
      rcases exists_of_bind_eq_ok read with ⟨items, -, same⟩
      rcases Except.ok.inj same with rfl
      exact follows_of_nextPage? rfl rfl (Option.ite_none_right_eq_some.mp found).2
  | cursor cursorParam limit itemsKey next =>
      rcases exists_of_bind_eq_ok read with ⟨items, -, same⟩
      rcases Except.ok.inj same with rfl
      rcases Option.map_eq_some_iff.mp found with ⟨cursor, -, rfl⟩
      refine ⟨cursorParam, cursor, rfl, rfl, ?_⟩
      rintro _ _ numbered
      cases numbered

/-- Whatever a body holds, the request for the next page that is read from it follows the one for
this page. -/
theorem follows_of_ofBody {body : String} (read : ofBody pagination request body = .ok page)
    (found : page.next = some next) : Follows pagination request next := by
  -- A blank body is an empty page, which leads nowhere.
  unfold ofBody at read
  split at read
  · rcases Except.ok.inj read with rfl
    cases found
  split at read
  · exact follows_of_ofValue read found
  · cases read

theorem Follows.isOtherPageOf (follows : Follows pagination request next) :
    next.IsOtherPageOf request := by
  rcases follows with ⟨mark, value, -, rfl, -⟩
  exact Http.Request.isOtherPageOf_withParam mark value request

end Page

/-- The request for the next page that an endpoint reads from a response follows the one that it
answers. -/
theorem Endpoint.follows_of_readPage {endpoint : Endpoint} {request next : Http.Request}
    {response : Http.Response} {page : Page} (read : endpoint.readPage request response = .ok page)
    (found : page.next = some next) : Page.Follows endpoint.pagination request next := by
  rcases exists_of_bind_eq_ok read with ⟨_, -, readBody⟩
  exact Page.follows_of_ofBody readBody found

end CloudAdmin
