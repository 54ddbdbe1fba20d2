import CloudAdmin.Proofs.Sandbox.Refinement
import CloudAdmin.Proofs.Sandbox.Walk
import Mathlib.Data.List.TakeDrop

/-!
# Lists that are asked for at once

Some lists of ZIA and ZCON are short enough for a client to ask for them at once: it says nothing
about pages, and takes what it gets for the whole list. A sandbox that is told nothing about pages
answers with its default page, and keeps the rest to itself. Main statement: such a list yields the
first hundred records of its collection, whatever the collection holds, so that it is whole just if
there are no more.
-/

namespace CloudAdmin.Sandbox

/-- Whether a collection that is listed in bare arrays consists of some records, however many, in
ascending order of their ids. Their texts are read back inside an array. -/
structure Stocks (contents : Contents) (path : String) (items : List (UInt64 × Record)) : Prop where
  stored : (State.ofContents contents).items path = items.map fun item => (item.1, item.2.toValue)
  ascending : Assoc.IsAscending items
  readBack : ∀ item ∈ items, item.2.toValue.ReadsBack (Json.nestingLimit - 1)

section Serving

variable {endpoint : Endpoint} {path : String} {contents : Contents}
  {items : List (UInt64 × Record)}

/-- The records that a sandbox shows to a client that says nothing about pages. -/
def defaultPage (items : List (UInt64 × Record)) : List Record :=
  (items.take 100).map Prod.snd

theorem listAnswer_of_noQuery {asked : Request} (noQuery : asked.query = []) (path : String)
    (records : List Record) :
    listAnswer .zia path asked (records.map Record.toValue) =
      .array ((records.take 100).map Record.toValue) := by
  have noParameter (name : String) : asked.parameter? name = none := by
    rw [Request.parameter?, noQuery]
    rfl
  have first : positiveParameter "page" 1 asked = 1 := by
    rw [positiveParameter, numberParameter, noParameter]
    rfl
  have size : positiveParameter "pageSize" defaultPageSize asked = 100 := by
    rw [positiveParameter, numberParameter, noParameter]
    rfl
  simp only [listAnswer, arrayPage, numberedPage, first, size, slice, List.map_take]
  rfl

theorem serve_atOnce (keeps : KeepsRecords endpoint .zia path)
    (atOnce : endpoint.pagination = .single) (stocks : Stocks contents path items) :
    serve (endpoint.listRequest []) contents =
      (.ok (Reply.json 200 (.array ((defaultPage items).map Record.toValue))).toResponse,
        contents) := by
  have noQuery : (endpoint.listRequest []).query = [] := by
    simp [Endpoint.listRequest, Http.Request.withQuery, Http.Request.read, Http.Request.bare,
      Pagination.listQuery, atOnce, Pagination.firstQuery]
  have leads : LeadsTo (endpoint.listRequest []).url path := keeps.collection
  have noBody : readBody (sentBody (endpoint.listRequest [])) = .ok none := rfl
  rcases leads.serve_collection noBody (special?_of_free keeps.free _ _) keeps.notId contents
    with ⟨asked, isGet, query, served⟩
  have noTerm : asked.parameter? "search" = none := by
    rw [Request.parameter?, query, noQuery]
    rfl
  have found : searchItems path asked (.ofContents contents) =
      (items.map Prod.snd).map Record.toValue := by
    have all (values : List Json.Value) : values.filter (matchesSearch none) = values :=
      List.filter_eq_self.mpr fun _ _ => rfl
    rw [searchItems, stocks.stored, noTerm, all, List.map_map, List.map_map]
    rfl
  have method : asked.method = "GET" := isGet
  rw [served]
  simp only [handleCollection, method, keeps.styled, found,
    listAnswer_of_noQuery (query.trans noQuery), ← List.map_take]
  rfl

theorem readPage_atOnce (atOnce : endpoint.pagination = .single) (request : Http.Request)
    {records : List Record}
    (readBack : ∀ record ∈ records, record.toValue.ReadsBack (Json.nestingLimit - 1)) :
    endpoint.readPage request
        (Reply.json 200 (.array (records.map Record.toValue))).toResponse =
      .ok ⟨records, none⟩ := by
  have whole : (Json.Value.array (records.map Record.toValue)).ReadsBack Json.nestingLimit := by
    refine .array fun value member => ?_
    rcases List.mem_map.mp member with ⟨record, inRecords, rfl⟩
    exact readBack record inRecords
  rw [readPage_json (Json.Value.isBlankText_array _) whole, atOnce]
  simp only [Page.ofValue, Page.singleItems, Page.arrayItems, Record.mapM_ofValue_map_toValue]
  rfl

end Serving

section Listing

variable {World : Type} {supply : TokenSupply} {client : Client World} {sandbox : World → State}
  {endpoint : Endpoint} {path : String} {items : List (UInt64 × Record)}

theorem perform_listAll_atOnce
    (reaches : Reaches supply client.session.authenticator client.session.host sandbox)
    (keeps : KeepsRecords endpoint .zia path) (atOnce : endpoint.pagination = .single)
    {state : SessionState World} (stocks : Stocks (held sandbox state) path items) :
    ∃ final, (client.listAll endpoint []).perform state = (.ok (defaultPage items), final) ∧
      held sandbox final = held sandbox state := by
  have readBack : ∀ record ∈ defaultPage items,
      record.toValue.ReadsBack (Json.nestingLimit - 1) := by
    intro record member
    rcases List.mem_map.mp member with ⟨item, inPage, rfl⟩
    exact stocks.readBack item (List.mem_of_mem_take inPage)
  have served := serve_atOnce keeps atOnce stocks
  have isResource : IsResource (endpoint.listRequest []).method (endpoint.listRequest []).url :=
    keeps.collection.isResource _
  rcases perform_readPage_of_reaches reaches endpoint isResource nofun state with ⟨page, kept⟩
  rw [servedPage_of_serve served, readPage_atOnce atOnce _ readBack] at page
  rw [served] at kept
  rcases performed : (client.readPage endpoint (endpoint.listRequest [])).perform state
    with ⟨result, final⟩
  rw [performed] at page kept
  subst page
  refine ⟨final, ?_, kept⟩
  -- At least one page is read, and the first one says that no other follows.
  obtain ⟨pages, more⟩ : ∃ pages, max client.maxPages 1 = pages + 1 :=
    Nat.exists_eq_succ_of_ne_zero (by omega)
  rw [Client.listAll, more, Client.walk, Action.perform_bind, performed]
  rfl

/-- The collections of ZIA and ZCON are where a gateway has them, whoever its customer is. -/
theorem exists_endpoint_of_offered {root : String} (customer : Option String)
    (origin : Url.IsOrigin (Text.dropTrailing '/' root)) {product : Product} {listing : Listing}
    (known : product ∈ [.zia, .zcon]) (offered : listing ∈ product.listings) :
    ∃ endpoint, listing.resource.endpoint (.gateway root customer) = .ok endpoint ∧
      endpoint.pagination = listing.resource.pagination ∧
      KeepsRecords endpoint .zia (listing.resource.collection.place none) := by
  have scopes : [Product.zia, .zcon].all (fun product => product.listings.all fun listing =>
      listing.resource.scope == .product product &&
        listing.resource.scope.style == .zia) = true := by
    decide +kernel
  have scope := List.all_eq_true.mp (List.all_eq_true.mp scopes _ known) _ offered
  simp only [Bool.and_eq_true, beq_iff_eq] at scope
  rcases scope with ⟨scope, style⟩
  have administered : listing.resource.IsAdministered := by
    refine .listed ?_ offered
    simp only [List.mem_cons, List.not_mem_nil, or_false] at known
    rcases known with rfl | rfl <;> decide
  have found (customer : Option String) : listing.resource.endpoint (.gateway root customer) =
      .ok (.under (Text.dropTrailing '/' root ++ product.gatewayPath) listing.resource.path
        listing.resource.pagination) := by
    rw [Resource.endpoint, scope]
    rfl
  have nobody : ∀ id, (none : Option String) = some id → Url.IsPlainPath id.toList := nofun
  have keeps := keepsRecords_of_isWellPlaced origin nobody administered.isWellPlaced (found none)
  exact ⟨_, found customer, rfl, style ▸ keeps⟩

section Calling

variable {root : String} {customer : Option String} {product : Product} {listing : Listing}
  {state : SessionState World}
  (reaches : Reaches supply client.session.authenticator client.session.host sandbox)
  (routed : client.routes = .gateway root customer)
  (origin : Url.IsOrigin (Text.dropTrailing '/' root)) (known : product ∈ [.zia, .zcon])
  (offered : listing ∈ product.listings) (atOnce : listing.resource.pagination = .single)
  (stocks : Stocks (held sandbox state) (listing.resource.collection.place none) items)

include reaches routed origin known offered atOnce stocks

theorem perform_list_atOnce :
    ∃ final, (client.run (.list listing.resource [])).perform state =
        (.ok (.records (defaultPage items)), final) ∧
      held sandbox final = held sandbox state := by
  rcases exists_endpoint_of_offered customer origin known offered
    with ⟨endpoint, found, paging, keeps⟩
  rcases perform_listAll_atOnce reaches keeps (paging.trans atOnce) stocks
    with ⟨final, performed, kept⟩
  refine ⟨final, ?_, kept⟩
  simp only [Client.run, Client.endpoint, routed, found, Action.perform_bind,
    Action.perform_ofExcept, performed, Action.perform_pure]

/-- A list of ZIA or ZCON that is asked for at once yields the first hundred records of its
collection in ascending order of their ids, and changes nothing. It yields all of them just if there
are no more. -/
theorem list_yields_default_page :
    ∃ final, (client.run (.list listing.resource [])).perform state =
        (.ok (.records ((items.take 100).map Prod.snd)), final) ∧
      held sandbox final = held sandbox state ∧ Assoc.IsAscending (items.take 100) ∧
      ((items.take 100).map Prod.snd = items.map Prod.snd ↔ items.length ≤ 100) := by
  rcases perform_list_atOnce reaches routed origin known offered atOnce stocks
    with ⟨final, performed, kept⟩
  refine ⟨final, performed, kept, List.Pairwise.sublist (List.take_sublist ..) stocks.ascending, ?_⟩
  rw [List.map_take, List.take_eq_self_iff, List.length_map]

end Calling

/-- So many categories, with ids from one on. -/
def categories (count : Nat) : List (UInt64 × Record) :=
  (List.range count).map fun index =>
    (UInt64.ofNat (index + 1), ⟨[("id", .ofWord (UInt64.ofNat (index + 1)))]⟩)

/-- A sandbox that holds so many categories. -/
def withCategories (count : Nat) : State :=
  { State.empty with
    store := [("/zia/api/v1/urlCategories",
      (categories count).map fun item => (item.1, item.2.toValue))] }

theorem stocks_categories {count : Nat} (few : count < UInt64.size) :
    Stocks (withCategories count).contents (Zia.urlCategories.collection.place none)
      (categories count) where
  stored := by
    have placed : Zia.urlCategories.collection.place none = "/zia/api/v1/urlCategories" := by
      decide +kernel
    rw [placed]
    rfl
  ascending := by
    rw [categories, Assoc.IsAscending, List.pairwise_map]
    refine List.Pairwise.imp_of_mem ?_ (List.pairwise_lt_range)
    intro earlier later inRange inRange' below
    have bound := List.mem_range.mp inRange'
    have most : count < 18446744073709551616 := few
    rw [UInt64.lt_iff_toNat_lt, UInt64.toNat_ofNat', UInt64.toNat_ofNat']
    omega
  readBack := by
    intro item member
    rcases List.mem_map.mp member with ⟨index, -, rfl⟩
    exact .object (List.pairwise_singleton ..) (by simpa using .ofWord _)

theorem offered_urlCategories :
    ⟨Zia.urlCategories, "url_categories", "url_category", .list :: Verb.editing⟩ ∈
      Product.zia.listings := by
  simp [Product.listings, Zia.listings]

/-- Two categories are listed at once. -/
theorem list_yields_two_categories :
    ∃ final, (localClient.run (.list Zia.urlCategories [])).perform ⟨none, withCategories 2⟩ =
      (.ok (.records ((categories 2).map Prod.snd)), final) := by
  have reaches := reaches_direct isTokenText_countingSupply accepts_localCustomer 0
  have routed : localClient.routes = .gateway "http://127.0.0.1:3000" none := rfl
  have stocks : Stocks (held id (⟨none, withCategories 2⟩ : SessionState State))
      (Zia.urlCategories.collection.place none) (categories 2) := stocks_categories (by decide)
  rcases list_yields_default_page reaches routed isOrigin_local (.head _) offered_urlCategories rfl
    stocks with ⟨final, performed, -, -, whole⟩
  exact ⟨final, whole.mpr (by decide) ▸ performed⟩

/-- Of a hundred and one categories the last one is not listed. -/
theorem list_misses_last_category :
    ∃ records final, (localClient.run (.list Zia.urlCategories [])).perform
        ⟨none, withCategories 101⟩ = (.ok (.records records), final) ∧
      records ≠ (categories 101).map Prod.snd := by
  have reaches := reaches_direct isTokenText_countingSupply accepts_localCustomer 0
  have routed : localClient.routes = .gateway "http://127.0.0.1:3000" none := rfl
  have stocks : Stocks (held id (⟨none, withCategories 101⟩ : SessionState State))
      (Zia.urlCategories.collection.place none) (categories 101) := stocks_categories (by decide)
  rcases perform_list_atOnce reaches routed isOrigin_local (.head _) offered_urlCategories rfl
    stocks with ⟨final, performed, -⟩
  refine ⟨_, final, performed, fun same => ?_⟩
  have lengths := congrArg List.length same
  simp [defaultPage, categories] at lengths

end Listing

end CloudAdmin.Sandbox
