import CloudAdmin.Proofs.Json.RoundTrip
import CloudAdmin.Proofs.Sandbox.Serving
import CloudAdmin.Proofs.Url.Parsing

/-!
# What a sandbox sees of a URL

A sandbox sees the path and the query of the URL that a client asks for. If the path starts with a
slash and holds no mark of what follows a path, both are seen as they stand in the URL, and the
paths of URLs of the web are like that. The query that a client adds to a URL without one is seen
pair by pair, whatever characters the pairs consist of. A URL whose path is none of those that the
sandbox keeps for itself is one of a resource, whatever query is added to it.
-/

namespace CloudAdmin.Sandbox

section Paths

/-- Whether a text is a path as URLs hold it. -/
structure IsPathText (path : List Char) : Prop where
  starts : path.head? = some '/'
  noQuery : '?' ∉ path
  noFragment : '#' ∉ path

/-- The paths that a sandbox keeps for itself. -/
def ownPaths : List String :=
  ["/oauth2/v1/token", "/signin", "/api/v1/authenticatedSession", "/auth/v1/login",
    "/v1/oauth/token", "/mock/revoke-tokens", "/mock/stats"]

theorem pathAndQuery_of_head {text : List Char} (starts : text.head? = some '/') :
    Request.pathAndQuery text = text := by
  rcases List.head?_eq_some_iff.mp starts with ⟨rest, rfl⟩
  rfl

/-- Path and query are found where the URL has them. -/
theorem ofTarget_render {path : List Char} (isPath : IsPathText path) (query : Option (List Char))
    (method : String) (headers : Http.Headers) (body : String) :
    Request.ofTarget method (String.ofList (path ++ Url.renderPart '?' query)) headers body =
      ⟨method, String.ofList path, Url.parseForm ((query.getD []).takeWhile (· != '#')), headers,
        body⟩ := by
  have starts : (path ++ Url.renderPart '?' query).head? = some '/' := by
    rw [List.head?_append, isPath.starts]
    rfl
  have noHash : ∀ c ∈ path, (c != '#') = true := by
    intro c member
    simpa using ne_of_mem_of_not_mem member isPath.noFragment
  have noMark : ∀ c ∈ path, c ≠ '?' :=
    fun c member => ne_of_mem_of_not_mem member isPath.noQuery
  simp only [Request.ofTarget, String.toList_ofList, pathAndQuery_of_head starts,
    List.takeWhile_append_of_pos noHash]
  cases query with
  | none => simp [Url.renderPart, Url.splitFirst_of_forall_ne noMark]
  | some query => simp [Url.renderPart, Url.splitFirst_append noMark]

theorem path_ofClient {url : Url} (isPath : IsPathText url.path.render) (request : Http.Request) :
    (Request.ofClient request url).path = String.ofList url.path.render := by
  simp only [Request.ofClient, Url.target, ofTarget_render isPath]

theorem method_name_ne_head (method : Http.Method) : method.name ≠ "HEAD" := by
  cases method <;> decide

theorem route_of_not_mem {path : String} (foreign : path ∉ ownPaths) (supply : TokenSupply) :
    route supply path = handleResource := by
  simp only [ownPaths, List.mem_cons, List.not_mem_nil, or_false, not_or] at foreign
  simp [route, endpoints, Assoc.find?, foreign]

theorem path_appendPairs (pairs : Url.Pairs) (url : Url) :
    (url.appendPairs pairs).path = url.path := by
  simp only [Url.appendPairs]
  split <;> rfl

/-- A URL whose path is not one of the sandbox's own is one of a resource. -/
theorem isResource_of_not_mem {url : String} {parsed : Url} (read : Url.parse url = .ok parsed)
    (isPath : IsPathText parsed.path.render)
    (foreign : String.ofList parsed.path.render ∉ ownPaths) (method : Http.Method) :
    IsResource method url := by
  intro supply request full sameMethod sameUrl found
  simp only [Http.Request.fullUrl, sameUrl, read, Except.ok.injEq] at found
  subst found
  have path : (Request.ofClient request (parsed.appendPairs request.query)).path =
      String.ofList parsed.path.render := by
    rw [path_ofClient (by rwa [path_appendPairs]), path_appendPairs]
  have notHead : ((Request.ofClient request (parsed.appendPairs request.query)).method == "HEAD") =
      false := by
    simpa [Request.ofClient, Request.ofTarget] using method_name_ne_head request.method
  funext state
  simp [handle, path, route_of_not_mem foreign, notHead]

/-- The path of a URL of the web is seen as it stands in the URL. -/
theorem isPathText_of_parse {text : String} {url : Url} (read : Url.parse text = .ok url)
    (web : Url.isWebScheme url.scheme = true) : IsPathText url.path.render := by
  rcases Url.path_of_parse read web with ⟨parts, path, notEmpty, encoded⟩
  have unmarked {mark : Char} (isMark : Url.inPathSet mark = true) (notSlash : mark ≠ '/') :
      mark ∉ parts.flatMap ('/' :: ·) := by
    intro member
    rcases List.mem_flatMap.mp member with ⟨part, inParts, inside⟩
    rcases List.mem_cons.mp inside with same | inPart
    · exact notSlash same
    · rw [encoded part inParts mark inPart] at isMark
      cases isMark
  rw [path]
  refine ⟨?_, unmarked (by decide) (by decide), unmarked (by decide) (by decide)⟩
  rcases List.exists_cons_of_ne_nil notEmpty with ⟨part, parts, rfl⟩
  rfl

end Paths

section Leading

/-- Whether a URL leads to a path of a sandbox that the sandbox does not keep for itself. The path
is taken without slashes at its end. -/
def LeadsTo (url path : String) : Prop :=
  ∃ parsed, Url.parse url = .ok parsed ∧ Url.isWebScheme parsed.scheme = true ∧
    parsed.query = none ∧ String.ofList parsed.path.render ∉ ownPaths ∧
      Text.dropTrailing '/' (String.ofList parsed.path.render) = path

theorem LeadsTo.isResource {url path : String} (leads : LeadsTo url path) (method : Http.Method) :
    IsResource method url := by
  rcases leads with ⟨parsed, read, web, -, foreign, -⟩
  exact isResource_of_not_mem read (isPathText_of_parse read web) foreign method

/-- The pairs that a client adds to a URL without a query are what a sandbox reads there. -/
theorem query_appendPairs {url : Url} (noQuery : url.query = none) (pairs : Url.Pairs) :
    Url.parseForm ((((url.appendPairs pairs).query).getD []).takeWhile (· != '#')) = pairs := by
  unfold Url.appendPairs
  split
  · rename_i empty
    rw [List.isEmpty_iff.mp empty, noQuery]
    rfl
  · have noHash : ∀ c ∈ (Url.renderForm pairs).toList, (c != '#') = true := by
      intro c member
      simpa using ne_of_mem_of_not_mem member (Url.not_mem_renderForm pairs)
    have whole : (Url.renderForm pairs).toList.takeWhile (· != '#') =
        (Url.renderForm pairs).toList := by
      rw [← List.append_nil (Url.renderForm pairs).toList, List.takeWhile_append_of_pos noHash]
      rfl
    simp only [noQuery, Option.getD_some, whole, Url.parseForm_renderForm]

/-- What a sandbox is asked by a request that leads to a path. -/
theorem LeadsTo.ofClient {request : Http.Request} {path : String}
    (leads : LeadsTo request.url path) :
    ∃ url raw, request.fullUrl = .ok url ∧ Text.dropTrailing '/' raw = path ∧
      Request.ofClient request url =
        ⟨request.method.name, raw, request.query, request.headers, sentBody request⟩ := by
  rcases leads with ⟨parsed, read, web, noQuery, foreign, same⟩
  have isPath := isPathText_of_parse read web
  refine ⟨parsed.appendPairs request.query, String.ofList parsed.path.render, ?_, same, ?_⟩
  · rw [Http.Request.fullUrl, read]
  · rw [Request.ofClient, Url.target, path_appendPairs, ofTarget_render isPath,
      query_appendPairs noQuery]

/-- A path that a URL leads to starts with a slash unless it is empty, and holds no mark. -/
theorem LeadsTo.unmarked {url path : String} (leads : LeadsTo url path) :
    (∀ c, path.toList.head? = some c → c = '/') ∧ '?' ∉ path.toList ∧ '#' ∉ path.toList := by
  rcases leads with ⟨parsed, read, web, -, -, rfl⟩
  rcases isPathText_of_parse read web with ⟨starts, noQuery, noFragment⟩
  obtain ⟨dropped, split⟩ : (Text.dropTrailing '/' (String.ofList parsed.path.render)).toList <+:
      parsed.path.render := by
    rw [Text.dropTrailing, String.toList_ofList, String.toList_ofList, ← List.reverse_suffix,
      List.reverse_reverse]
    exact List.dropWhile_suffix _
  rw [← split] at starts noQuery noFragment
  refine ⟨?_, fun inside => noQuery (List.mem_append_left _ inside),
    fun inside => noFragment (List.mem_append_left _ inside)⟩
  intro c head
  rw [List.head?_append, head] at starts
  exact Option.some.inj starts

end Leading

section Places

variable {request : Http.Request} {path : String} {body : Option Json.Value}

/-- A body that is read as JSON is not empty. -/
theorem readBody_of_parse? {text : String} {value : Json.Value}
    (parsed : Json.parse? text = some value) : readBody text = .ok (some value) := by
  have notEmpty : text.isEmpty = false := by
    apply Bool.eq_false_iff.mpr
    intro empty
    have visible := Json.isBlankText_of_parse? parsed
    rw [String.isEmpty_iff.mp empty] at visible
    cases visible
  simp only [readBody, notEmpty, Bool.false_eq_true, if_false, parsed]

theorem LeadsTo.serve_collection (leads : LeadsTo request.url path)
    (read : readBody (sentBody request) = .ok body)
    (ordinary : special? request.method.name path body = none)
    (notId : isId (splitLast path).2 = false) (contents : Contents) :
    ∃ asked : Request, asked.method = request.method.name ∧ asked.query = request.query ∧
      serve request contents =
        (.ok (handleCollection (Style.ofPath path) path asked body
            (.ofContents contents)).1.toResponse,
          (handleCollection (Style.ofPath path) path asked body
            (.ofContents contents)).2.contents) := by
  rcases leads.ofClient with ⟨url, raw, full, same, asked⟩
  refine ⟨⟨request.method.name, raw, request.query, request.headers, sentBody request⟩, rfl,
    rfl, ?_⟩
  simp only [serve, full, asked, handleAuthorized, same, read, ordinary, notId, Bool.false_eq_true,
    if_false]

theorem LeadsTo.serve_special {reply : Reply} (leads : LeadsTo request.url path)
    (read : readBody (sentBody request) = .ok body)
    (special : special? request.method.name path body = some reply) (contents : Contents) :
    serve request contents = (.ok reply.toResponse, contents) := by
  rcases leads.ofClient with ⟨url, raw, full, same, asked⟩
  simp only [serve, full, asked, handleAuthorized, same, read, special,
    State.contents_ofContents]

theorem LeadsTo.serve_item {parent last : String} {id : UInt64} (leads : LeadsTo request.url path)
    (read : readBody (sentBody request) = .ok body)
    (ordinary : special? request.method.name path body = none)
    (cut : splitLast path = (parent, last)) (isId_ : isId last = true)
    (number : Text.toWord64? last = some id) (contents : Contents) :
    serve request contents =
      (.ok (handleItem (Style.ofPath path) parent id request.method.name body
          (.ofContents contents)).1.toResponse,
        (handleItem (Style.ofPath path) parent id request.method.name body
          (.ofContents contents)).2.contents) := by
  rcases leads.ofClient with ⟨url, raw, full, same, asked⟩
  simp only [serve, full, asked, handleAuthorized, same, read, ordinary, cut, isId_, number,
    if_true]

end Places

end CloudAdmin.Sandbox
