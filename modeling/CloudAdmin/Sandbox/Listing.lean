import CloudAdmin.Sandbox.Message
import CloudAdmin.Sandbox.Style

/-!
# Lists of a sandbox

A list answers with the records that match a search, cut into pages in the way of its style. Pages
are counted in 64-bit words.
-/

namespace CloudAdmin.Sandbox

/-- How many records a page has unless something else is asked for. -/
def defaultPageSize : UInt64 := 100

/-- How many records a page of ZPA has unless something else is asked for. -/
def defaultZpaPageSize : UInt64 := 20

/-- A number in the query, or a default. -/
def numberParameter (name : String) (default : UInt64) (request : Request) : UInt64 :=
  ((request.parameter? name).bind Text.toWord64?).getD default

/-- A number in the query that is at least one. -/
def positiveParameter (name : String) (default : UInt64) (request : Request) : UInt64 :=
  max (numberParameter name default request) 1

/-- Whether a record matches a search: the term occurs in its name, in whatever case. -/
def matchesSearch (term : Option String) (value : Json.Value) : Bool :=
  match term with
  | none => true
  | some term =>
      match (value.field? "name").bind Json.Value.toString? with
      | some name => Text.occursIn (Text.lowerCase term) (Text.lowerCase name)
      | none => false

/-- So many of some records, after so many others. -/
def slice (start count : UInt64) (records : List Json.Value) : List Json.Value :=
  (records.drop start.toNat).take count.toNat

/-- A page of records counted from one. -/
def numberedPage (page size : UInt64) (records : List Json.Value) : List Json.Value :=
  slice ((page - 1) * size) size records

/-- A page as a bare array. -/
def arrayPage (request : Request) (records : List Json.Value) : Json.Value :=
  let page := positiveParameter "page" 1 request
  let size := positiveParameter "pageSize" defaultPageSize request
  .array (numberedPage page size records)

/-- A page in an envelope that counts the pages. It has no list if it has no records. -/
def countedPage (request : Request) (records : List Json.Value) : Json.Value :=
  let page := positiveParameter "page" 1 request
  let size := positiveParameter "pagesize" defaultZpaPageSize request
  let pages := (records.length + size.toNat - 1) / size.toNat
  let onPage := numberedPage page size records
  let list := if onPage.isEmpty then [] else [("list", Json.Value.array onPage)]
  .ofFields (("totalPages", .string (Text.decimal pages)) :: list)

/-- Where the next page starts, if there is one. -/
def nextOffset? (offset limit : UInt64) (total : Nat) : Option UInt64 :=
  if (offset + limit).toNat < total then some (offset + limit) else none

/-- A page in an envelope that says where the next one starts. -/
def offsetPage (request : Request) (records : List Json.Value) : Json.Value :=
  let offset := numberParameter "offset" 0 request
  let limit := positiveParameter "limit" defaultPageSize request
  let next := match nextOffset? offset limit records.length with
    | some start => Json.Value.string (Text.decimal start.toNat)
    | none => .null
  .ofFields [("items", .array (slice offset limit records)), ("next_offset", next)]

/-- A page in an envelope with a link to the next one. -/
def linkedPage (path : String) (request : Request) (records : List Json.Value) : Json.Value :=
  let offset := numberParameter "offset" 0 request
  let limit := positiveParameter "limit" defaultPageSize request
  let next := match nextOffset? offset limit records.length with
    | some start =>
        Json.Value.string (String.join ["http://mock", path, "?offset=", Text.decimal start.toNat,
          "&limit=", Text.decimal limit.toNat])
    | none => .null
  .ofFields [("results_total", .ofWord (UInt64.ofNat records.length)),
    ("pageOffset", .ofWord offset), ("pageSize", .ofWord limit), ("next_link", next),
    ("records", .array (slice offset limit records))]

/-- All records in one envelope. -/
def wholeList (records : List Json.Value) : Json.Value :=
  .ofFields [("results", .array records),
    ("total_results", .ofWord (UInt64.ofNat records.length))]

/-- The answer to a list with some records. -/
def listAnswer (style : Style) (path : String) (request : Request) (records : List Json.Value) :
    Json.Value :=
  match style with
  | .zia => arrayPage request records
  | .zpa => countedPage request records
  | .zidentity => linkedPage path request records
  | .zdx => offsetPage request records
  | .results => wholeList records

end CloudAdmin.Sandbox
