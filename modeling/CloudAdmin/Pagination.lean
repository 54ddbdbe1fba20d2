import CloudAdmin.Http.Message
import CloudAdmin.Query
import CloudAdmin.Record
import CloudAdmin.Text.Blank

/-!
# Pages

The products hand out long lists in pages, each in its own way: as bare arrays that end with a
short one, as envelopes that count the pages, or as envelopes that carry a cursor for the next one.
A paging strategy says what is added to the first query, where the items of a page are, and how the
request for the next page follows from the request for this one. Nothing but one query parameter
ever changes between the pages of a walk.
-/

namespace CloudAdmin

/-- Where a page carries the cursor of the next one. -/
inductive NextCursor where
  /-- A member that is the cursor, a string or a number. -/
  | field (name : String)
  /-- A member that is a URL whose query holds the cursor. -/
  | link (name : String)
deriving DecidableEq, Repr

/-- A way of handing out a list in pages. -/
inductive Pagination where
  /-- One page with everything. -/
  | single
  /-- Bare arrays; a page with fewer items than its size is the last. -/
  | pageNumber (pageParam sizeParam : String) (pageSize firstPage : UInt32)
  /-- Envelopes that count the pages. -/
  | countedPages (pageSize : UInt32)
  /-- Envelopes that carry a cursor. -/
  | cursor (cursorParam : String) (limit : Option (String × UInt32)) (itemsKey : String)
      (next : NextCursor)
  /-- One envelope with everything. -/
  | envelope (itemsKey : String)
deriving DecidableEq, Repr

/-- The items of a page, and the request for the page after it. -/
structure Page where
  items : List Record
  next : Option Http.Request

/-- The page size of bare arrays unless the caller chooses one. -/
def defaultPageSize : UInt32 := 1000

/-- The size beyond which pages are refused. -/
def greatestPageSize : UInt32 := 10000

/-- A page size within the bounds that are accepted. -/
def clampPageSize (size : UInt32) : UInt32 :=
  if size = 0 then 1 else if greatestPageSize < size then greatestPageSize else size

/-- The members in which a body that is not paged may keep its items, in order of preference. -/
def envelopeKeys : List String := ["list", "items", "records", "results"]

def decimalWord (value : UInt32) : String :=
  Text.decimal value.toNat

namespace Pagination

/-- Bare arrays of a given size. -/
def ziaSized (pageSize : UInt32) : Pagination :=
  .pageNumber "page" "pageSize" (clampPageSize pageSize) 1

/-- The paging of ZIA and ZCON. -/
def zia : Pagination := ziaSized defaultPageSize

def zpa : Pagination := .countedPages 500

def zcc : Pagination := .pageNumber "page" "pageSize" 500 1

/-- The paging of ZDX lists whose items are under a given key. -/
def zdxItems (itemsKey : String) : Pagination :=
  .cursor "offset" none itemsKey (.field "next_offset")

def zdx : Pagination := zdxItems "items"

def zidentity : Pagination :=
  .cursor "offset" (some ("limit", 100)) "records" (.link "next_link")

/-- What is added to the query for the first page. -/
def firstQuery : Pagination → Query
  | .single | .envelope _ => []
  | .pageNumber pageParam sizeParam pageSize firstPage =>
      [(pageParam, decimalWord firstPage), (sizeParam, decimalWord pageSize)]
  | .countedPages pageSize => [("page", "1"), ("pagesize", decimalWord pageSize)]
  | .cursor _ (some (name, size)) _ _ => [(name, decimalWord size)]
  | .cursor _ none _ _ => []

/-- The query for the first page, where what the caller gives takes precedence. -/
def listQuery (pagination : Pagination) (query : Query) : Query :=
  query ++ pagination.firstQuery.filter fun pair => !Query.has pair.1 query

end Pagination

namespace Http.Request

/-- A request with one parameter set anew: it replaces all its earlier values and comes last. -/
def withParam (name value : String) (request : Request) : Request :=
  { request with query := (request.query.filter fun pair => pair.1 != name) ++ [(name, value)] }

/-- The page that a request asks for. -/
def pageNumber (pageParam : String) (firstPage : UInt32) (request : Request) : UInt32 :=
  ((request.queryValue? pageParam).bind Text.toWord32?).getD firstPage

/-- The request for the next page, for pages that are numbered. The last number has no successor. -/
def nextPage? (pageParam : String) (firstPage : UInt32) (request : Request) : Option Request :=
  let page := request.pageNumber pageParam firstPage
  if page.toNat + 1 < UInt32.size then
    some (request.withParam pageParam (decimalWord (page + 1)))
  else none

end Http.Request

namespace Page

/-- The records that an array consists of. -/
def arrayItems : Json.Value → Except ApiError (List Record)
  | .array items => items.mapM Record.ofValue
  | other => .error (.unexpectedJson .arrayPage other)

/-- The records under a key; none if there is nothing under it. -/
def itemsAt (key : String) (body : Json.Value) : Except ApiError (List Record) :=
  match body.field? key with
  | none | some .null => .ok []
  | some items => arrayItems items

/-- Whether an object keeps an array under a key. -/
def hasArrayAt (fields : Json.Fields) (key : String) : Bool :=
  match Assoc.find? key fields with
  | some (.array _) => true
  | _ => false

/-- The records in a body that is not paged: an array, an envelope or a single record. -/
def singleItems : Json.Value → Except ApiError (List Record)
  | .array items => arrayItems (.array items)
  | .object fields =>
      match envelopeKeys.find? (hasArrayAt fields) with
      | some key => itemsAt key (.object fields)
      | none => .ok [⟨fields⟩]
  | other => .error (.unexpectedJson .arrayOrObject other)

/-- How many pages an envelope says there are. -/
def totalPages (body : Json.Value) : UInt64 :=
  match body.field? "totalPages" with
  | some (.number number) => number.toWord64?.getD 0
  | some (.string text) => (Text.toWord64? text).getD 0
  | _ => 0

/-- The cursor in the query of a link. -/
def cursorInLink? (cursorParam link : String) : Option String :=
  match Url.parse link with
  | .ok url => Query.value? cursorParam url.queryPairs
  | .error _ => none

/-- The cursor that a page carries. -/
def cursor? (cursorParam : String) (next : NextCursor) (body : Json.Value) : Option String :=
  match next with
  | .field name =>
      match body.field? name with
      | some (.string text) => some text
      | some (.number number) => some number.text
      | _ => none
  | .link name => ((body.field? name).bind Json.Value.toString?).bind (cursorInLink? cursorParam)

/-- The page in a body that holds some JSON, in answer to a request. -/
def ofValue (pagination : Pagination) (request : Http.Request) (body : Json.Value) :
    Except ApiError Page :=
  match pagination with
  | .single => do return ⟨← singleItems body, none⟩
  | .envelope itemsKey => do return ⟨← itemsAt itemsKey body, none⟩
  | .pageNumber pageParam sizeParam pageSize firstPage => do
      let items ← arrayItems body
      let size :=
        clampPageSize (((request.queryValue? sizeParam).bind Text.toWord32?).getD pageSize)
      let isFull := size.toNat ≤ items.length
      return ⟨items, if isFull then request.nextPage? pageParam firstPage else none⟩
  | .countedPages _ => do
      let items ← itemsAt "list" body
      let isBeforeLast := (request.pageNumber "page" 1).toNat < (totalPages body).toNat
      return ⟨items, if isBeforeLast then request.nextPage? "page" 1 else none⟩
  | .cursor cursorParam _ itemsKey next => do
      let items ← itemsAt itemsKey body
      let following := (cursor? cursorParam next body).filter fun cursor =>
        !cursor.isEmpty && !items.isEmpty
      return ⟨items, following.map fun cursor => request.withParam cursorParam cursor⟩

/-- The page in a body, in answer to a request. A blank body is an empty page. -/
def ofBody (pagination : Pagination) (request : Http.Request) (body : String) :
    Except ApiError Page :=
  if Text.isBlankText body then .ok ⟨[], none⟩
  else
    match Json.parse? body with
    | some value => ofValue pagination request value
    | none => .error .malformedJson

end Page

end CloudAdmin
