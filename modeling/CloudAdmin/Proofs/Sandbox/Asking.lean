import CloudAdmin.Proofs.GraphQuery
import CloudAdmin.Proofs.Sandbox.Place
import CloudAdmin.Proofs.Sandbox.Walk
import CloudAdmin.ServiceCall

/-!
# Asking a sandbox graph queries

A sandbox answers a graph query by saying what was asked, and reports an error if nothing was.
Main statement: the data that a client gets for a query are the text of the query and the variables
that it gave, and variables that it left out because they are null come back as null. What a client
makes of any other answer is said there as well.
-/

namespace CloudAdmin.Sandbox

/-- What a sandbox says about a query. -/
def echoed (query : String) (bindings : Json.Value) : Record :=
  ⟨[("query", .string query), ("variables", bindings)]⟩

/-- The answer with the data of a record. -/
def dataAnswer (record : Record) : Json.Value :=
  .ofFields [("data", record.toValue)]

/-- What a sandbox says if nothing is asked. -/
def nothingAsked : Json.Value :=
  .ofFields [("errors", .array [.ofFields [("message", .string "query is required")]]),
    ("data", .null)]

section Serving

variable {url path query : String} {bindings : Json.Value}

theorem toValue_echoed (query : String) (bindings : Json.Value) :
    (echoed query bindings).toValue =
      .ofFields [("query", .string query), ("variables", bindings)] := by
  have ascending :
      Assoc.IsAscending [("query", Json.Value.string query), ("variables", bindings)] :=
    Assoc.isAscending_of_keys ["query", "variables"] rfl (by decide)
  rw [Json.Value.ofFields, Assoc.ofList_of_isAscending ascending]
  rfl

theorem readsBack_dataAnswer {record : Record} {room : Nat}
    (readBack : record.toValue.ReadsBack room) : (dataAnswer record).ReadsBack (room + 1) := by
  apply Json.Value.ReadsBack.ofFields
  simpa using readBack

theorem readsBack_echoed {room : Nat} (query : String) (readBack : bindings.ReadsBack room) :
    (echoed query bindings).toValue.ReadsBack (room + 1) := by
  rw [toValue_echoed]
  apply Json.Value.ReadsBack.ofFields
  simpa using ⟨.string query, readBack⟩

theorem readsBack_nothingAsked : nothingAsked.ReadsBack Json.nestingLimit := by
  apply Json.Value.ReadsBack.ofFields
  intro field member
  simp only [List.mem_cons, List.not_mem_nil, or_false] at member
  rcases member with rfl | rfl
  · apply Json.Value.ReadsBack.array
    intro error only
    rcases List.mem_singleton.mp only with rfl
    apply Json.Value.ReadsBack.ofFields
    simpa using .string _
  · exact .null

theorem echoQuery_body (notBlank : Text.isBlankText query = false) :
    echoQuery (some (GraphQuery.body query bindings)) =
      .json 200 (dataAnswer (echoed query bindings)) := by
  have asked := GraphQuery.query_body query bindings
  have given := GraphQuery.variables_body query bindings
  simp only [echoQuery, Option.bind_some, asked, given, Json.Value.toString?, Option.getD_some,
    notBlank, Bool.false_eq_true, if_false, dataAnswer, toValue_echoed, Reply.fields]

theorem echoQuery_body_of_blank (blank : Text.isBlankText query = true) :
    echoQuery (some (GraphQuery.body query bindings)) = .json 200 nothingAsked := by
  have asked := GraphQuery.query_body query bindings
  simp only [echoQuery, Option.bind_some, asked, Json.Value.toString?, Option.getD_some, blank,
    if_true, nothingAsked, Reply.fields]

/-- What ends in the name of the graph queries ends in no other name that is posted to. -/
theorem special?_graphql (ends : endsWith "/graphql" path = true) (body : Option Json.Value) :
    special? "POST" path body = some (echoQuery body) := by
  have activation : endsWith "/status/activate" path = false :=
    endsWith_eq_false (by decide) ends (by decide) (by decide)
  have lookUps : endsWith "/urlLookup" path = false :=
    endsWith_eq_false (by decide) ends (by decide) (by decide)
  simp [special?, activation, lookUps, ends]

theorem serve_graphQuery (leads : LeadsTo url path) (ends : endsWith "/graphql" path = true)
    (readBack : bindings.ReadsBack (Json.nestingLimit - 1)) (contents : Contents) :
    serve (GraphQuery.request url query bindings) contents =
      (.ok (echoQuery (some (GraphQuery.body query bindings))).toResponse, contents) := by
  have read : readBody (sentBody (GraphQuery.request url query bindings)) =
      .ok (some (GraphQuery.body query bindings)) :=
    readBody_of_parse? (GraphQuery.readsBack_body readBack).parse?_text
  have led : LeadsTo (GraphQuery.request url query bindings).url path := leads
  exact led.serve_special read (special?_graphql ends _) contents

/-- What a sandbox answers is read as its body says. -/
theorem readResponse_json {body : Json.Value} (readBack : body.ReadsBack Json.nestingLimit) :
    GraphQuery.readResponse (Reply.json 200 body).toResponse = GraphQuery.readAnswer body := by
  have parsed : Json.parse? (Reply.json 200 body).toResponse.body = some body :=
    readBack.parse?_text
  exact GraphQuery.readResponse_of_parse? rfl parsed

theorem readAnswer_dataAnswer (record : Record) :
    GraphQuery.readAnswer (dataAnswer record) = .ok record := by
  apply GraphQuery.readAnswer_eq_ok_iff.mpr
  simp [dataAnswer, Json.Value.ofFields, Json.Value.field?, Assoc.find?_ofList]

theorem readAnswer_nothingAsked :
    GraphQuery.readAnswer nothingAsked = .error (.queryErrors ["query is required"]) := by
  apply GraphQuery.readAnswer_eq_queryErrors_iff.mpr
  refine ⟨[.ofFields [("message", .string "query is required")]], ?_, by simp, ?_⟩
  · simp [nothingAsked, Json.Value.ofFields, Json.Value.field?, Assoc.find?_ofList]
  · refine .cons (.stated ?_) .nil
    simp [Assoc.find?_ofList]

end Serving

section Asking

variable {World : Type} {supply : TokenSupply} {client : Client World} {sandbox : World → State}
  {root : String} {customer : Option String} {query : String} {bindings : Json.Value}

/-- The gateway on a server of its own leads to the graph queries. -/
theorem leadsTo_graphql (origin : Url.IsOrigin (Text.dropTrailing '/' root)) :
    LeadsTo (Text.dropTrailing '/' root ++ "/zins/graphql") "/zins/graphql" :=
  leadsTo_written origin "zins/graphql" (by decide) (by decide) (by decide)

/-- What a client gets for a query is what a sandbox answers to it. -/
theorem perform_ask_of_reaches
    (reaches : Reaches supply client.session.authenticator client.session.host sandbox)
    (routed : client.routes = .gateway root customer)
    (origin : Url.IsOrigin (Text.dropTrailing '/' root))
    (readBack : bindings.ReadsBack (Json.nestingLimit - 1)) (query : String)
    (state : SessionState World) :
    ∃ final, (client.run (.ask query bindings)).perform state =
        ((GraphQuery.readResponse
          (echoQuery (some (GraphQuery.body query bindings))).toResponse).map Answer.record,
          final) ∧
      held sandbox final = held sandbox state := by
  let request := GraphQuery.request (Text.dropTrailing '/' root ++ "/zins/graphql") query bindings
  have leads : LeadsTo request.url "/zins/graphql" := leadsTo_graphql origin
  have only : HasOnlyContentType request := by
    simp [request, GraphQuery.request]
  have asked := perform_execute_of_reaches reaches (leads.isResource _) only state
  rw [serve_graphQuery (leadsTo_graphql origin) (by decide) readBack] at asked
  rcases performed : (client.execute request).perform state with ⟨answer, after⟩
  rw [performed] at asked
  rcases asked with ⟨rfl, same⟩
  refine ⟨after, ?_, same⟩
  have base : client.routes.base .zinsights =
      .ok (Text.dropTrailing '/' root ++ "/zins/graphql") := by
    rw [routed]
    rfl
  simp only [request] at performed
  simp only [Client.run, Client.ask, base, Action.perform_bind, Action.perform_ofExcept, performed]
  cases GraphQuery.readResponse
    (echoQuery (some (GraphQuery.body query bindings))).toResponse with
  | error error => rfl
  | ok record => rfl

/-- A response to a graph query brings the data of a success that reports no errors, and the errors
of a success are told one by one, whatever data comes with them. A sandbox says what it was asked:
whatever query text is not blank comes back with the variables that the client gave, whether they
are null or not. A blank text is reported as an error. -/
theorem ask_brings_data_or_errors :
    (∀ (response : Http.Response) (record : Record),
      GraphQuery.readResponse response = .ok record ↔ response.isSuccess = true ∧
        ∃ fields, Json.parse? response.body = some (.object fields) ∧
          (∀ errors, Assoc.find? "errors" fields = some (.array errors) → errors = []) ∧
          Assoc.find? "data" fields = some record.toValue) ∧
    (∀ (response : Http.Response) (fields : Json.Fields) (errors : List Json.Value),
      response.isSuccess = true → Json.parse? response.body = some (.object fields) →
      Assoc.find? "errors" fields = some (.array errors) → errors ≠ [] →
        ∃ messages, List.Forall₂ GraphQuery.IsMessageOf errors messages ∧
          GraphQuery.readResponse response = .error (.queryErrors messages)) ∧
    ∀ (World : Type) (supply : TokenSupply) (client : Client World) (sandbox : World → State)
      (root : String) (customer : Option String) (query : String) (bindings : Json.Value)
      (state : SessionState World),
      Reaches supply client.session.authenticator client.session.host sandbox →
      client.routes = .gateway root customer → Url.IsOrigin (Text.dropTrailing '/' root) →
      bindings.ReadsBack (Json.nestingLimit - 2) →
        ∃ final, held sandbox final = held sandbox state ∧
          ((∃ c ∈ query.toList, Text.isBlank c = false) →
            (client.run (.ask query bindings)).perform state =
              (.ok (.record ⟨[("query", .string query), ("variables", bindings)]⟩), final)) ∧
          ((∀ c ∈ query.toList, Text.isBlank c = true) →
            (client.run (.ask query bindings)).perform state =
              (.error (.queryErrors ["query is required"]), final)) := by
  refine ⟨?_, ?_, ?_⟩
  · intro response record
    exact GraphQuery.readResponse_eq_ok_iff
  · intro response fields errors success parsed reported some_
    refine ⟨errors.map GraphQuery.errorMessage, GraphQuery.forall₂_isMessageOf_iff.mpr rfl, ?_⟩
    apply GraphQuery.readResponse_eq_queryErrors_iff.mpr
    exact ⟨success, fields, errors, parsed, reported, some_,
      GraphQuery.forall₂_isMessageOf_iff.mpr rfl⟩
  · intro World supply client sandbox root customer query bindings state reaches routed origin
      readBack
    rcases perform_ask_of_reaches reaches routed origin readBack.succ query state
      with ⟨final, performed, same⟩
    refine ⟨final, same, ?_, ?_⟩
    · rintro ⟨c, inQuery, visible⟩
      have notBlank : Text.isBlankText query = false :=
        List.all_eq_false.mpr ⟨c, inQuery, by simp [visible]⟩
      have whole := readsBack_dataAnswer (readsBack_echoed query readBack)
      rw [performed, echoQuery_body notBlank, readResponse_json whole, readAnswer_dataAnswer]
      rfl
    · intro blank
      rw [performed, echoQuery_body_of_blank (List.all_eq_true.mpr blank),
        readResponse_json readsBack_nothingAsked, readAnswer_nothingAsked]
      rfl

/-- Errors that come with data: the first of them states a message, the second is a text. -/
def partialAnswer : Json.Value :=
  .ofFields [("data", .ofFields []),
    ("errors", .array [.ofFields [("message", .string "bad field")], .string "oops"])]

/-- A query without variables is asked on this machine, and errors are told in spite of data. -/
theorem ask_brings_data_or_errors_locally :
    (∃ final, (localClient.run (.ask "{ traffic }" .null)).perform ⟨none, .empty⟩ =
      (.ok (.record ⟨[("query", .string "{ traffic }"), ("variables", .null)]⟩), final)) ∧
    (∃ final, (localClient.run (.ask " \n" .null)).perform ⟨none, .empty⟩ =
      (.error (.queryErrors ["query is required"]), final)) ∧
    GraphQuery.readResponse (Reply.json 200 partialAnswer).toResponse =
      .error (.queryErrors ["bad field", "\"oops\""]) := by
  rcases ask_brings_data_or_errors with ⟨-, reported, asked⟩
  have asked (query : String) := asked State countingSupply localClient id "http://127.0.0.1:3000"
    none query .null ⟨none, .empty⟩
    (reaches_direct isTokenText_countingSupply accepts_localCustomer 0) rfl isOrigin_local .null
  have readBack : partialAnswer.ReadsBack Json.nestingLimit := by
    apply Json.Value.ReadsBack.ofFields
    intro field member
    simp only [List.mem_cons, List.not_mem_nil, or_false] at member
    rcases member with rfl | rfl
    · exact .ofFields (by simp)
    · apply Json.Value.ReadsBack.array
      intro error member
      simp only [List.mem_cons, List.not_mem_nil, or_false] at member
      rcases member with rfl | rfl
      · exact .ofFields (by simpa using .string _)
      · exact .string _
  refine ⟨?_, ?_, ?_⟩
  · rcases asked "{ traffic }" with ⟨final, -, data, -⟩
    exact ⟨final, data ⟨'t', by decide, by decide⟩⟩
  · rcases asked " \n" with ⟨final, -, -, refused⟩
    have blank : Text.isBlankText " \n" = true := rfl
    exact ⟨final, refused (List.all_eq_true.mp blank)⟩
  · rcases reported (Reply.json 200 partialAnswer).toResponse _ _ rfl readBack.parse?_text rfl
      (by simp) with ⟨messages, told, read⟩
    have same := GraphQuery.forall₂_isMessageOf_iff.mp told
    rw [read, ← same]
    rfl

end Asking

end CloudAdmin.Sandbox
