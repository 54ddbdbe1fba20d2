import CloudAdmin.Sandbox.Listing
import CloudAdmin.Sandbox.Login

/-!
# Resources of a sandbox

Every path that is not a login is a resource. A path that ends in a number is a record of the
collection before it; any other path is a collection, apart from a few that answer in a way of their
own. Whoever asks has to present a token that is good; nothing is looked at or changed otherwise.
-/

namespace CloudAdmin.Sandbox

def endsWith (ending path : String) : Bool :=
  ending.toList.reverse.isPrefixOf path.toList.reverse

/-- A path cut at its last slash. -/
def splitLast (path : String) : String × String :=
  let reversed := path.toList.reverse
  let last := (reversed.takeWhile (· != '/')).reverse
  let parent := ((reversed.dropWhile (· != '/')).drop 1).reverse
  (String.ofList parent, String.ofList last)

/-- Whether a segment is an id. -/
def isId (segment : String) : Bool :=
  !segment.isEmpty && segment.toList.all Char.isDigit

/-- A record with its id set; what is no record stays as it is. -/
def withId (style : Style) (id : UInt64) : Json.Value → Json.Value
  | .object fields => .object (Assoc.insert "id" (style.idValue id) fields)
  | value => value

/-- How many URLs are looked up at a time. -/
def lookUpLimit : Nat := 100

/-- The answer to a lookup of URLs. -/
def lookUp (body : Option Json.Value) : Reply :=
  let urls := (body.bind Json.Value.toArray?).getD []
  if lookUpLimit < urls.length then
    .json 400 (.ofFields [("code", .string "TOO_MANY_URLS")])
  else
    .json 200 <| .array <| urls.map fun url => .ofFields [("url", url),
      ("urlClassifications", .array [.string "OTHER_MISCELLANEOUS"])]

/-- The answer to a graph query: it says what was asked. -/
def echoQuery (body : Option Json.Value) : Reply :=
  let query := ((body.bind (Json.Value.field? "query")).bind Json.Value.toString?).getD ""
  if Text.isBlankText query then
    .fields [("errors", .array [.ofFields [("message", .string "query is required")]]),
      ("data", .null)]
  else
    let bindings := (body.bind (Json.Value.field? "variables")).getD .null
    .fields [("data", .ofFields [("query", .string query), ("variables", bindings)])]

/-- The answer of a path that has one of its own. -/
def special? (method path : String) (body : Option Json.Value) : Option Reply :=
  if endsWith "/authenticatedSession" path && method == "GET" then
    some (.fields [("authType", .string "ADMIN_LOGIN"), ("obfuscateApiKey", .bool true)])
  else if endsWith "/ecAdminActivateStatus" path && method == "GET" ||
      endsWith "/ecAdminActivateStatus/activate" path && method == "PUT" then
    some (.fields [("orgEditStatus", .string "ORG_ACTIVE"),
      ("adminActivateStatus", .string "ADM_ACTV_DONE")])
  else if endsWith "/status/activate" path && method == "POST" then
    some (.fields [("status", .string "ACTIVE")])
  else if endsWith "/status" path && method == "GET" then
    some (.fields [("status", .string "ACTIVE")])
  else if endsWith "/urlLookup" path && method == "POST" then some (lookUp body)
  else if endsWith "/graphql" path && method == "POST" then some (echoQuery body)
  else none

def replaceItem (style : Style) (path : String) (id : UInt64) (body : Option Json.Value)
    (state : State) : Reply × State :=
  let updated := withId style id (body.getD (.object []))
  (match style with
    | .zpa => .bare 204
    | _ => .json 200 updated,
    state.put path id updated)

/-- Handle a request for a record of a collection that was used before. -/
def handlePresent (style : Style) (path : String) (id : UInt64) (present : Option Json.Value)
    (method : String) (body : Option Json.Value) (state : State) : Reply × State :=
  match method, present with
  | "GET", some value => (.json 200 value, state)
  | "PUT", some _ => replaceItem style path id body state
  | "DELETE", some _ => (.bare 204, state.remove path id)
  | "GET", none | "PUT", none | "DELETE", none => (.bare 404, state)
  | _, _ => (.bare 405, state)

def handleItem (style : Style) (path : String) (id : UInt64) (method : String)
    (body : Option Json.Value) (state : State) : Reply × State :=
  match state.items? path with
  | none => (.bare 404, state)
  | some items => handlePresent style path id (Assoc.find? id items) method body state

def addItem (style : Style) (path : String) (fields : Json.Fields) (state : State) :
    Reply × State :=
  let (id, state') := state.allocate
  let created := withId style id (.object fields)
  (.json (match style with | .zpa => 201 | _ => 200) created, state'.put path id created)

/-- The records of a collection that match a search. -/
def searchItems (path : String) (request : Request) (state : State) : List Json.Value :=
  ((state.items path).map Prod.snd).filter (matchesSearch (request.parameter? "search"))

def handleCollection (style : Style) (path : String) (request : Request)
    (body : Option Json.Value) (state : State) : Reply × State :=
  match request.method with
  | "GET" => (.json 200 (listAnswer style path request (searchItems path request state)), state)
  | "POST" =>
      match body.bind Json.Value.toObject? with
      | some fields => addItem style path fields state
      | none => (.json 400 (.ofFields [("code", .string "INVALID_INPUT_ARGUMENT")]), state)
  | _ => (.bare 405, state)

/-- The JSON in a body; an empty body has none. -/
def readBody (body : String) : Except Reply (Option Json.Value) :=
  if body.isEmpty then .ok none
  else
    match Json.parse? body with
    | some value => .ok (some value)
    | none => .error (.bare 400)

/-- Handle a request that presents a good token. -/
def handleAuthorized : Handler := fun request state =>
  let path := Text.dropTrailing '/' request.path
  match readBody request.body with
  | .error reply => (reply, state)
  | .ok body =>
      match special? request.method path body with
      | some reply => (reply, state)
      | none =>
          let style := Style.ofPath path
          let (parent, last) := splitLast path
          if isId last then
            match Text.toWord64? last with
            | some id => handleItem style parent id request.method body state
            | none => (.bare 404, state)
          else handleCollection style path request body state

/-- Whether a request presents a good token. -/
def isAuthorized (request : Request) (state : State) : Bool :=
  (presentedToken? request).any state.accepts

def handleResource : Handler := fun request state =>
  if isAuthorized request state then handleAuthorized request state
  else (.json 401 (.ofFields [("code", .string "UNAUTHORIZED")]), state)

end CloudAdmin.Sandbox
