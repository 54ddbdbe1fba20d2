import CloudAdmin.Proofs.Client.LookUps
import CloudAdmin.Proofs.Sandbox.Place
import CloudAdmin.Proofs.Sandbox.Walk
import CloudAdmin.Services.Zia

/-!
# Classifying URLs

A sandbox classifies a batch of URLs in one answer, with a record for each URL in the order of the
batch, and refuses batches that are too large. Main statement: the batches that a client makes of
its URLs are not, so that however many URLs are looked up, there is one record for each of them in
their order. What a client asks of any other server is said there as well.
-/

namespace CloudAdmin.Sandbox

section Serving

/-- What a sandbox says about a URL. -/
def classified (url : String) : Record :=
  ⟨Assoc.ofList [("url", .string url),
    ("urlClassifications", .array [.string "OTHER_MISCELLANEOUS"])]⟩

theorem find?_classified (url : String) : (classified url).find? "url" = some (.string url) := by
  simp [classified, Record.find?, Assoc.find?_ofList]

theorem readsBack_classified (url : String) :
    (classified url).toValue.ReadsBack (Json.nestingLimit - 1) := by
  apply Json.Value.ReadsBack.ofFields
  intro field member
  simp only [List.mem_cons, List.not_mem_nil, or_false] at member
  rcases member with rfl | rfl
  · exact .string url
  · exact .array (by simpa using .string _)

theorem readsBack_batch (batch : List String) :
    (Json.Value.array (batch.map .string)).ReadsBack Json.nestingLimit := by
  apply Json.Value.ReadsBack.array
  intro value member
  rcases List.mem_map.mp member with ⟨url, -, rfl⟩
  exact .string url

theorem lookUp_batch {batch : List String} (few : batch.length ≤ 100) :
    lookUp (some (.array (batch.map .string))) =
      .json 200 (.array ((batch.map classified).map Record.toValue)) := by
  have fits : ¬lookUpLimit < (batch.map Json.Value.string).length := by
    rw [List.length_map, lookUpLimit]
    omega
  simp only [lookUp, Option.bind_some, Json.Value.toArray?, Option.getD_some, fits, if_false,
    List.map_map]
  rfl

/-- What ends in the name of the look-up ends in no other name that is posted to. -/
theorem special?_of_endsWith {path : String} (ends : endsWith "/urlLookup" path = true)
    (body : Option Json.Value) : special? "POST" path body = some (lookUp body) := by
  have other : endsWith "/status/activate" path = false :=
    endsWith_eq_false (by decide) ends (by decide) (by decide)
  simp [special?, other, ends]

variable {endpoint : Endpoint} {path : String}

/-- A batch that is not too large is answered with a record for each of its URLs. -/
theorem serve_lookUpRequest {batch : List String}
    (leads : LeadsTo (Client.lookUpRequest endpoint batch).url path)
    (ends : endsWith "/urlLookup" path = true) (few : batch.length ≤ 100) (contents : Contents) :
    serve (Client.lookUpRequest endpoint batch) contents =
      (.ok (Reply.json 200 (.array ((batch.map classified).map Record.toValue))).toResponse,
        contents) := by
  have body : readBody (sentBody (Client.lookUpRequest endpoint batch)) =
      .ok (some (.array (batch.map .string))) :=
    readBody_of_parse? (readsBack_batch batch).parse?_text
  rw [leads.serve_special body (special?_of_endsWith ends _), lookUp_batch few]

theorem lookUpRecords_classified (batch : List String) :
    Client.lookUpRecords
        (Reply.json 200 (.array ((batch.map classified).map Record.toValue))).toResponse =
      .ok (batch.map classified) := by
  have readBack : (Json.Value.array ((batch.map classified).map Record.toValue)).ReadsBack
      Json.nestingLimit := by
    apply Json.Value.ReadsBack.array
    intro value member
    rcases List.mem_map.mp member with ⟨record, inBatch, rfl⟩
    rcases List.mem_map.mp inBatch with ⟨url, -, rfl⟩
    exact readsBack_classified url
  have items : lookUpItems (.array ((batch.map classified).map Record.toValue)) =
      .ok (batch.map classified) := Client.lookUpItems_eq_ok_iff.mpr (.inr rfl)
  generalize Json.Value.array ((batch.map classified).map Record.toValue) = body at readBack items
  have success : (Reply.json 200 body).toResponse.isSuccess = true := rfl
  have text : (Reply.json 200 body).toResponse.body = body.text := rfl
  have value : (Reply.json 200 body).toResponse.value = .ok body :=
    Client.value_eq_ok_iff.mpr ⟨success, .inr (text ▸ readBack.parse?_text)⟩
  simp only [Client.lookUpRecords, bind, Except.bind, value, items]

end Serving

section Leading

variable {root path : String} {routes : Routes} {endpoint : Endpoint}

/-- URLs are looked up where the endpoint is, because its URL does not end in a slash. -/
theorem url_lookUpRequest (found : (Zia.whole "urlLookup").endpoint routes = .ok endpoint)
    (batch : List String) : (Client.lookUpRequest endpoint batch).url = endpoint.url := by
  rcases exists_of_bind_eq_ok found with ⟨base, -, built⟩
  rcases Except.ok.inj built with rfl
  have stays : Text.dropTrailing '/' ("/" ++ "urlLookup") = "/" ++ "urlLookup" := by decide
  change Text.dropTrailing '/' (Text.dropTrailing '/' base ++ "/" ++ "urlLookup") =
    Text.dropTrailing '/' base ++ "/" ++ "urlLookup"
  rw [String.append_assoc, Text.dropTrailing_append (fun last => Text.getLast?_dropTrailing), stays]

/-- Where the gateway of a customer has the look-up of URLs. -/
theorem endpoint_urlLookup (root : String) (customer : Option String) :
    (Zia.whole "urlLookup").endpoint (.gateway root customer) =
      .ok ⟨Text.dropTrailing '/' root ++ "/zia/api/v1/urlLookup", .single⟩ := by
  have stays : Text.dropTrailing '/' "/zia/api/v1" = "/zia/api/v1" := by decide
  have base : Text.dropTrailing '/' (Text.dropTrailing '/' root ++ "/zia/api/v1") =
      Text.dropTrailing '/' root ++ "/zia/api/v1" := by
    rw [Text.dropTrailing_append (fun last => Text.getLast?_dropTrailing), stays]
  have joined : Endpoint.join (Text.dropTrailing '/' root ++ "/zia/api/v1") "urlLookup" =
      Text.dropTrailing '/' root ++ "/zia/api/v1/urlLookup" := by
    rw [Endpoint.join, base]
    simp [Text.dropLeading, String.append_assoc]
  exact congrArg (fun url => Except.ok (Endpoint.mk url .single)) joined

/-- The gateway on a server of its own leads to the look-up of URLs. -/
theorem leadsTo_urlLookup (origin : Url.IsOrigin (Text.dropTrailing '/' root)) :
    LeadsTo (Text.dropTrailing '/' root ++ "/zia/api/v1/urlLookup") "/zia/api/v1/urlLookup" :=
  leadsTo_written origin "zia/api/v1/urlLookup" (by decide) (by decide) (by decide)

end Leading

section LookingUp

variable {World : Type} {supply : TokenSupply} {client : Client World} {sandbox : World → State}
  {endpoint : Endpoint} {path : String}

/-- Batches that are not too large are looked up as a whole, and nothing changes by that. -/
theorem perform_lookUpBatches
    (reaches : Reaches supply client.session.authenticator client.session.host sandbox)
    (leads : ∀ batch, LeadsTo (Client.lookUpRequest endpoint batch).url path)
    (ends : endsWith "/urlLookup" path = true) {batches : List (List String)}
    (few : ∀ batch ∈ batches, batch.length ≤ 100) (state : SessionState World) :
    ∃ final, (client.lookUpBatches endpoint batches).perform state =
        (.ok (batches.flatten.map classified), final) ∧
      held sandbox final = held sandbox state := by
  induction batches generalizing state with
  | nil => exact ⟨state, rfl, rfl⟩
  | cons batch later ih =>
      have only : HasOnlyContentType (Client.lookUpRequest endpoint batch) := by
        simp [Client.lookUpRequest, Endpoint.callRequest]
      have asked := perform_execute_of_reaches reaches ((leads batch).isResource _) only state
      rw [serve_lookUpRequest (leads batch) ends (few batch (List.mem_cons_self ..))] at asked
      rcases performed : (client.execute (Client.lookUpRequest endpoint batch)).perform state
        with ⟨answer, after⟩
      rw [performed] at asked
      rcases asked with ⟨rfl, same⟩
      rcases ih (fun other member => few other (List.mem_cons_of_mem _ member)) after
        with ⟨final, others, kept⟩
      refine ⟨final, ?_, kept.trans same⟩
      rw [Client.perform_lookUpBatches_cons performed]
      simp only [bind, Except.bind, lookUpRecords_classified, others, Except.map,
        List.flatten_cons, List.map_append]

/-- However many URLs are looked up and whatever a server answers, it is asked for them in batches
and in their order, and what comes of it is what its answers bring, up to the first one that brings
nothing of the kind. A client without a place to look URLs up at asks nobody. A sandbox answers all
batches: there is one record for each URL, in their order. -/
theorem urlLookup_in_batches (urls : List String) :
    (∀ (authenticator : Authenticator) (transport : Transport) (clock : Nat → UInt64)
        (routes : Routes) (maxPages : Nat) (kept : Option Token) (earlier : List Http.Request)
        (readings : Nat),
      let client : Client Traffic := ⟨⟨transport.host clock, authenticator⟩, routes, maxPages⟩
      let ended := (client.run (Zia.urlLookup urls)).perform ⟨kept, ⟨earlier, readings⟩⟩
      match (Zia.whole "urlLookup").endpoint routes with
      | .error error => ended = (.error error, ⟨kept, ⟨earlier, readings⟩⟩)
      | .ok endpoint =>
          ∃ visits result, Client.LooksUp endpoint urls visits result ∧
            Client.AreMade authenticator transport earlier visits ∧
            ended.1 = result.map Answer.records ∧
            ended.2.world.sent = earlier ++ visits.flatMap Client.Visit.sent) ∧
      ∀ (World : Type) (supply : TokenSupply) (client : Client World) (sandbox : World → State)
        (endpoint : Endpoint) (path : String) (state : SessionState World),
        Reaches supply client.session.authenticator client.session.host sandbox →
        (Zia.whole "urlLookup").endpoint client.routes = .ok endpoint →
        LeadsTo endpoint.url path → endsWith "/urlLookup" path = true →
          ∃ records final, (client.run (Zia.urlLookup urls)).perform state =
              (.ok (.records records), final) ∧
            records.map (Record.find? "url") = urls.map (fun url => some (.string url)) ∧
            held sandbox final = held sandbox state := by
  constructor
  · intro authenticator transport clock routes maxPages kept earlier readings client ended
    split
    · rename_i error missing
      simp only [ended, client, Zia.urlLookup, Client.run, Client.endpoint, missing,
        Action.perform_bind, Action.perform_ofExcept]
    · rename_i endpoint found
      exact Client.lookUp_visits client rfl found urls kept earlier readings
  · intro World supply client sandbox endpoint path state reaches found leads ends
    have leads' : ∀ batch, LeadsTo (Client.lookUpRequest endpoint batch).url path := by
      intro batch
      rw [url_lookUpRequest found]
      exact leads
    have few : ∀ batch ∈ batches urls, batch.length ≤ 100 :=
      fun batch member => (length_of_mem_batchesWithin member).2
    rcases perform_lookUpBatches reaches leads' ends few state with ⟨final, performed, kept⟩
    refine ⟨urls.map classified, final, ?_, ?_, kept⟩
    · simp only [Zia.urlLookup, Client.run, Client.endpoint, found, Action.perform_bind,
        Action.perform_ofExcept, performed, Action.perform_pure]
      rw [batches, flatten_batchesWithin (Nat.le_refl _)]
    · rw [List.map_map]
      exact List.map_congr_left fun url _ => find?_classified url

/-- A hundred and one URLs. -/
def manyUrls : List String :=
  List.replicate 101 "a.example"

/-- They are looked up at the gateway of the customer on this machine, in two batches. -/
theorem urlLookup_in_batches_of_many :
    (∃ visits result, Client.LooksUp
        ⟨Text.dropTrailing '/' "http://127.0.0.1:3000" ++ "/zia/api/v1/urlLookup", .single⟩ manyUrls
        visits result ∧ visits.length ≤ 2) ∧
      ∃ records final, (localClient.run (Zia.urlLookup manyUrls)).perform ⟨none, .empty⟩ =
        (.ok (.records records), final) ∧ records.length = 101 := by
  have found := endpoint_urlLookup "http://127.0.0.1:3000" none
  have reaches : Reaches countingSupply localClient.session.authenticator localClient.session.host
      id := reaches_direct isTokenText_countingSupply accepts_localCustomer 0
  have silent : Transport := fun _ => .ok ⟨200, [], ""⟩
  rcases urlLookup_in_batches manyUrls with ⟨everywhere, there⟩
  constructor
  · have asked := everywhere localCustomer silent (fun _ => 0) localClient.routes 1 none [] 0
    simp only [localClient, found] at asked
    rcases asked with ⟨visits, result, looksUp, -⟩
    exact ⟨visits, result, looksUp, looksUp.few⟩
  · rcases there State countingSupply localClient id _ _ ⟨none, .empty⟩ reaches found
      (leadsTo_urlLookup isOrigin_local) (by decide) with ⟨records, final, performed, urls, -⟩
    refine ⟨records, final, performed, ?_⟩
    have count := congrArg List.length urls
    rwa [List.length_map, List.length_map, manyUrls, List.length_replicate] at count

end LookingUp

end CloudAdmin.Sandbox
