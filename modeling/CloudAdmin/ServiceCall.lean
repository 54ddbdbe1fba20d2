import CloudAdmin.Client
import CloudAdmin.TimeWindow

/-!
# Calls of the products

What a product offers is described as data: a call names the resource that it is about and what is
to be done with it. Most calls are the same for all resources. A few need more than one request, or
a check before the first one, and have a form of their own.
-/

namespace CloudAdmin

/-- A call that some product offers. -/
inductive ServiceCall where
  /-- Every record of a list. -/
  | list (resource : Resource) (query : Query)
  /-- The first page of a list. -/
  | page (resource : Resource) (query : Query)
  /-- A record. -/
  | get (resource : Resource) (id : String)
  /-- The record with a name. -/
  | find (resource : Resource) (name : String)
  /-- Add a record. -/
  | add (resource : Resource) (body : Record)
  /-- Replace a record. -/
  | update (resource : Resource) (id : String) (body : Record)
  /-- Remove a record. -/
  | delete (resource : Resource) (id : String)
  /-- Whatever a request below the resource yields. -/
  | value (resource : Resource) (method : Http.Method) (suffix : String) (query : Query)
      (body : Option Json.Value)
  /-- The record that a request below the resource yields. -/
  | record (resource : Resource) (method : Http.Method) (suffix : String) (query : Query)
      (body : Option Json.Value)
  /-- A request below the resource that yields nothing. -/
  | command (resource : Resource) (method : Http.Method) (suffix : String) (query : Query)
      (body : Option Json.Value)
  /-- Replace a record whose id is in its body. -/
  | edit (resource : Resource) (body : Record)
  /-- The category with a name, which is the one it was given or its id. -/
  | findCategory (resource : Resource) (name : String)
  /-- Look up URLs, not too many at a time. -/
  | lookUp (resource : Resource) (urls : List String)
  /-- Every measurement of a list, by default the recent ones. -/
  | recentList (resource : Resource) (query : Query)
  /-- A measurement, by default over recent time. -/
  | recentRecord (resource : Resource) (query : Query)
  /-- The data that a graph query yields. -/
  | ask (query : String) (bindings : Json.Value)
  /-- The data that a graph query yields over a range of time in milliseconds. -/
  | askBetween (query : String) (startTime endTime : UInt64) (limit : UInt32)

/-- What a call yields. -/
inductive Answer where
  | records (records : List Record)
  | page (page : Page)
  | record (record : Record)
  | found (record : Option Record)
  | value (value : Json.Value)
  | done

/-- How many URLs are looked up at a time. -/
def lookUpBatch : Nat := 100

/-- Cut a list into batches, as many as a bound allows. -/
def batchesWithin : Nat → List String → List (List String)
  | 0, _ => []
  | _, [] => []
  | bound + 1, urls => urls.take lookUpBatch :: batchesWithin bound (urls.drop lookUpBatch)

def batches (urls : List String) : List (List String) :=
  batchesWithin urls.length urls

/-- The records in the answer to one batch. -/
def lookUpItems : Json.Value → Except ApiError (List Record)
  | .array items => items.mapM Record.ofValue
  | .null => .ok []
  | other => .error (.unexpectedJson .lookupArray other)

namespace Client

variable {World : Type}

/-- Look up one batch after the other. -/
def lookUpBatches (endpoint : Endpoint) (client : Client World) : List (List String) →
    Action World (List Record)
  | [] => return []
  | batch :: rest => do
      let answer ← client.call endpoint .post "" [] (some (.array (batch.map .string)))
      let items ← Action.ofExcept (lookUpItems answer)
      return items ++ (← lookUpBatches endpoint client rest)

/-- Whether a category has a name. -/
def isCategoryNamed (name : String) (record : Record) : Bool :=
  record.string? "configuredName" == some name || record.id? == some name

/-- A query over recent time unless it says otherwise. -/
def recent (query : Query) (client : Client World) : Action World Query := do
  let now ← Action.onWorld client.session.host.wallClock
  return (TimeWindow.endingAt now).apply query

/-- The variables of a graph query over a range of time. -/
def rangeVariables (startTime endTime : UInt64) (limit : UInt32) : Json.Value :=
  .ofFields [("start", .ofWord startTime), ("end", .ofWord endTime),
    ("limit", .ofWord limit.toUInt64)]

def run (client : Client World) : ServiceCall → Action World Answer
  | .list resource query => do
      let endpoint ← client.endpoint resource
      return .records (← client.listAll endpoint query)
  | .page resource query => do
      let endpoint ← client.endpoint resource
      return .page (← client.listPage endpoint query)
  | .get resource id => do
      let endpoint ← client.endpoint resource
      return .record (← client.get endpoint id)
  | .find resource name => do
      let endpoint ← client.endpoint resource
      return .found (← client.findByName endpoint name)
  | .add resource body => do
      let endpoint ← client.endpoint resource
      return .record (← client.add endpoint body)
  | .update resource id body => do
      let endpoint ← client.endpoint resource
      return .record (← client.update endpoint id body)
  | .delete resource id => do
      let endpoint ← client.endpoint resource
      client.delete endpoint id
      return .done
  | .value resource method suffix query body => do
      let endpoint ← client.endpoint resource
      return .value (← client.call endpoint method suffix query body)
  | .record resource method suffix query body => do
      let endpoint ← client.endpoint resource
      return .record (← client.callRecord endpoint method suffix query body)
  | .command resource method suffix query body => do
      let endpoint ← client.endpoint resource
      let _ ← client.call endpoint method suffix query body
      return .done
  | .edit resource body => do
      let _ ← Action.ofExcept (body.require "id")
      let endpoint ← client.endpoint resource
      return .record (← client.callRecord endpoint .put "" [] (some body.toValue))
  | .findCategory resource name => do
      let endpoint ← client.endpoint resource
      let records ← client.listAll endpoint []
      return .found (records.find? (isCategoryNamed name))
  | .lookUp resource urls => do
      let endpoint ← client.endpoint resource
      return .records (← client.lookUpBatches endpoint (batches urls))
  | .recentList resource query => do
      let endpoint ← client.endpoint resource
      let windowed ← client.recent query
      return .records (← client.listAll endpoint windowed)
  | .recentRecord resource query => do
      let endpoint ← client.endpoint resource
      let windowed ← client.recent query
      return .record (← client.callRecord endpoint .get "" windowed none)
  | .ask query bindings => do
      return .record (← client.ask query bindings)
  | .askBetween query startTime endTime limit => do
      if endTime ≤ startTime then Action.ofExcept (.error (.emptyWindow startTime endTime))
      return .record (← client.ask query (rangeVariables startTime endTime limit))

end Client

end CloudAdmin
