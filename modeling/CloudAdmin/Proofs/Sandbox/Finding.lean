import CloudAdmin.Proofs.Sandbox.Place
import CloudAdmin.Proofs.Sandbox.Walk

/-!
# Finding a record by its name

A client looks a record up by its name in two steps. It lists what the sandbox finds for the name,
which is every record whose name has that text in it, in whatever letter case, and takes the first
one that has exactly the name. Main statement: if the pages that the client may read have room for
what is found, the client gets the record with the least id among those of that name, and gets none
just if no record has the name.
-/

namespace CloudAdmin.Sandbox

section Matching

variable {name : String} {items : List (UInt64 × Record)}

/-- Whether a record has exactly a name. -/
def isNamed (name : String) (record : Record) : Bool :=
  record.name? == some name

/-- A search for the name of a record finds it, since a text is part of itself in whatever letter
case. -/
theorem matchesSearch_of_isNamed {record : Record} (named : isNamed name record) :
    matchesSearch (some name) record.toValue = true := by
  have given : (record.toValue.field? "name").bind Json.Value.toString? = some name :=
    beq_iff_eq.mp named
  simp only [matchesSearch, given]
  exact (occursIn_iff_isInfix _ _).mpr (List.infix_refl _)

/-- What a search for a name leaves out has another name. -/
theorem find?_matching : ((matching (some name) items).map Prod.snd).find? (isNamed name) =
    (items.map Prod.snd).find? (isNamed name) := by
  have kept (item : UInt64 × Record) :
      (matchesSearch (some name) item.2.toValue = true ∧ isNamed name item.2 = true) ↔
        isNamed name item.2 = true :=
    and_iff_right_of_imp matchesSearch_of_isNamed
  simp only [List.find?_map, matching, List.find?_filter, Function.comp_def, kept,
    Bool.decide_eq_true]

/-- Whether a record is the one with the least id among those with exactly a name, or there is none
because no record has the name. -/
structure IsLeastNamed (name : String) (items : List (UInt64 × Record)) (found : Option Record) :
    Prop where
  none_iff : found = none ↔ ∀ item ∈ items, item.2.name? ≠ some name
  least : ∀ record, found = some record → ∃ id, (id, record) ∈ items ∧ record.name? = some name ∧
    ∀ item ∈ items, item.2.name? = some name → id ≤ item.1

theorem isLeastNamed_find? (ascending : Assoc.IsAscending items) :
    IsLeastNamed name items ((items.map Prod.snd).find? (isNamed name)) where
  none_iff := by
    simp [isNamed]
  least := by
    intro record found
    rw [List.find?_map, Option.map_eq_some_iff] at found
    rcases found with ⟨⟨id, record⟩, found, rfl⟩
    rcases List.find?_eq_some_iff_append.mp found with ⟨named, before, after, rfl, others⟩
    refine ⟨id, by simp, beq_iff_eq.mp named, ?_⟩
    intro item member same
    rcases List.mem_append.mp member with earlier | here
    · have other := others item earlier
      simp [isNamed, same] at other
    · rcases List.mem_cons.mp here with rfl | later
      · exact UInt64.le_refl _
      · have behind := (List.pairwise_append.mp ascending).2.1
        exact UInt64.le_of_lt (List.rel_of_pairwise_cons behind later)

end Matching

section Finding

variable {World : Type} {supply : TokenSupply} {client : Client World} {sandbox : World → State}

/-- A client finds the first record of the name in the list of what matches. -/
theorem perform_findByName_of_listed {endpoint : Endpoint} {name : String}
    {state : SessionState World} {records : List Record}
    (listed : ((client.listAll endpoint (Query.search name [])).perform state).1 = .ok records) :
    (client.findByName endpoint name).perform state =
      (.ok (records.find? (isNamed name)),
        ((client.listAll endpoint (Query.search name [])).perform state).2) := by
  rw [Client.findByName, Action.perform_bind]
  rcases performed : (client.listAll endpoint (Query.search name [])).perform state
    with ⟨result, after⟩
  rw [performed] at listed
  obtain rfl : result = .ok records := listed
  rfl

/-- A client that looks for a name gets the record with the least id among those that have exactly
that name, if there is one. -/
theorem findByName_finds_least (client : Client World)
    (reaches : Reaches supply client.session.authenticator client.session.host sandbox)
    (endpoint : Endpoint) {style : Style} (name : String) {size : Option UInt32}
    (handsOut : HandsOut style endpoint.pagination (Query.search name []) size) {path : String}
    (leads : LeadsTo endpoint.url path) (collection : IsCollection style path)
    (state : SessionState World) {items : List (UInt64 × Record)}
    (comprises : Comprises (held sandbox state) path items)
    (readBack : AreReadBack style (matching (some name) items))
    (enough : ∀ width, size = some width → (matching (some name) items).length ≤
      min (max client.maxPages 1) (style.mostPages width) * width.toNat) :
    ∃ found, ((client.findByName endpoint name).perform state).1 = .ok found ∧
      IsLeastNamed name items found ∧
        held sandbox ((client.findByName endpoint name).perform state).2 = held sandbox state := by
  have term : Query.lastValue? "search" (Query.search name []) = some name := rfl
  have few : ∀ width, size = some width →
      (matching (some name) items).length ≤ style.mostPages width * width.toNat :=
    fun width chosen =>
      Nat.le_trans (enough width chosen) (Nat.mul_le_mul_right _ (Nat.min_le_right ..))
  have walked := perform_listAll_matching client reaches endpoint (Query.search name []) handsOut
    leads collection state comprises (by rwa [term])
    (by rw [term]; exact fun width chosen => .inr (few width chosen))
  have whole : onPages (max client.maxPages 1) size (matching (some name) items) =
      matching (some name) items := by
    cases size with
    | none => rfl
    | some size =>
        exact List.take_of_length_le
          (Nat.le_trans (enough size rfl) (Nat.mul_le_mul_right _ (Nat.min_le_left ..)))
  rw [term, withinReach_eq_self few, whole] at walked
  rw [perform_findByName_of_listed walked.1, find?_matching]
  exact ⟨_, rfl, isLeastNamed_find? comprises.ascending, walked.2⟩

/-- A search stops at a page that cannot be read. -/
theorem perform_findByName_of_error {endpoint : Endpoint} {name : String}
    {state after : SessionState World} {error : ApiError}
    (read : (client.readPage endpoint (endpoint.listRequest (Query.search name []))).perform state =
      (.error error, after)) :
    ((client.findByName endpoint name).perform state).1 = .error error := by
  have atLeast : max client.maxPages 1 = max client.maxPages 1 - 1 + 1 :=
    (Nat.sub_add_cancel (Nat.le_max_right ..)).symm
  rw [Client.findByName, Action.perform_bind, Client.listAll, atLeast, Client.walk,
    Action.perform_bind, read]

/-- Three users of one name, the first of them with a capital letter. -/
def namesakes : List (UInt64 × Record) :=
  [(1, ⟨[("id", .string "1"), ("name", .string "Åsa")]⟩),
    (2, ⟨[("id", .string "2"), ("name", .string "åsa")]⟩),
    (5, ⟨[("id", .string "5"), ("name", .string "åsa")]⟩)]

/-- A sandbox that holds the users of one name. -/
def withNamesakes : State :=
  { State.empty with
    store := [("/ziam/admin/api/v1/users", namesakes.map fun item => (item.1, item.2.toValue))] }

theorem isCollection_users : IsCollection .zidentity "/ziam/admin/api/v1/users" :=
  ⟨by decide +kernel, by decide +kernel, by decide +kernel⟩

theorem findByName_finds_least_of_namesakes :
    ((localClient.findByName usersEndpoint "åsa").perform ⟨none, withNamesakes⟩).1 =
      .ok (some ⟨[("id", .string "2"), ("name", .string "åsa")]⟩) := by
  have ascending : Assoc.IsAscending namesakes := by simp [namesakes, Assoc.IsAscending]
  have readBack : AreReadBack .zidentity (matching (some "åsa") namesakes) := by
    intro item found
    have member := (List.mem_filter.mp found).1
    simp only [namesakes, List.mem_cons, List.not_mem_nil, or_false] at member
    rcases member with rfl | rfl | rfl <;>
      exact .object (Assoc.isAscending_of_keys ["id", "name"] rfl (by decide))
        (by simp [Json.Value.ReadsBack.string])
  have enough : (matching (some "åsa") namesakes).length ≤
      min (max localClient.maxPages 1) (Style.zidentity.mostPages 100) * 100 :=
    Nat.le_trans (List.length_filter_le ..) (by decide)
  rcases findByName_finds_least localClient
      (reaches_direct isTokenText_countingSupply accepts_localCustomer 0) usersEndpoint "åsa"
      (.linked rfl (.byDefault rfl)) leadsTo_users isCollection_users ⟨none, withNamesakes⟩
      ⟨rfl, ascending⟩ readBack (by rintro width ⟨⟩; exact enough)
      with ⟨found, result, isLeast, -⟩
  rw [result]
  cases found with
  | none =>
      exact absurd rfl (isLeast.none_iff.mp rfl
        (2, ⟨[("id", .string "2"), ("name", .string "åsa")]⟩) (by simp [namesakes]))
  | some record =>
      rcases isLeast.least record rfl with ⟨id, member, named, least⟩
      have atMost := least (2, ⟨[("id", .string "2"), ("name", .string "åsa")]⟩)
        (by simp [namesakes]) rfl
      simp only [namesakes, List.mem_cons, Prod.mk.injEq, List.not_mem_nil, or_false] at member
      rcases member with ⟨rfl, rfl⟩ | ⟨rfl, rfl⟩ | ⟨rfl, rfl⟩
      · exact absurd named (by decide)
      · rfl
      · exact absurd atMost (by decide)

/-- A value inside so many arrays. -/
def nested : Nat → Json.Value
  | 0 => .null
  | depth + 1 => .array [nested depth]

theorem readsBack_nested (depth : Nat) : (nested depth).ReadsBack depth := by
  induction depth with
  | zero => exact .null
  | succ depth ih => exact .array (by simpa using ih)

/-- A user with notes that are nested as deeply as they can be in a record. -/
def deepUser : Record :=
  ⟨[("id", .string "1"), ("name", .string "ann"), ("notes", nested (Json.nestingLimit - 1))]⟩

theorem readsBack_deepUser : deepUser.toValue.ReadsBack Json.nestingLimit := by
  refine .object (Assoc.isAscending_of_keys ["id", "name", "notes"] rfl (by decide)) ?_
  intro field member
  simp only [deepUser, List.mem_cons, List.not_mem_nil, or_false] at member
  rcases member with rfl | rfl | rfl
  · exact .string _
  · exact .string _
  · exact readsBack_nested _

/-- A sandbox that holds the user with nested notes. -/
def withDeepUser : State :=
  { State.empty with store := [("/ziam/admin/api/v1/users", [(1, deepUser.toValue)])] }

/-- The answer to a list puts two containers more around the notes of the user, and that is one too
many. -/
theorem parse?_listAnswer_deepUser {asked : Request}
    (query : asked.query = [("search", "ann"), ("limit", "100")]) :
    Json.parse? (listAnswer .zidentity "/ziam/admin/api/v1/users" asked [deepUser.toValue]).text =
      none := by
  have alone : ∀ value ∈ [deepUser.toValue], value.ReadsBack Json.nestingLimit := by
    intro value member
    rw [List.mem_singleton.mp member]
    exact readsBack_deepUser
  have readBack : (listAnswer .zidentity "/ziam/admin/api/v1/users" asked
      [deepUser.toValue]).ReadsBack (Json.nestingLimit + Style.zidentity.enclosing) :=
    readsBack_listAnswer asked alone
  have shown : listAnswer .zidentity "/ziam/admin/api/v1/users" asked [deepUser.toValue] =
      linkedPage "/ziam/admin/api/v1/users"
        ⟨"GET", "", [("search", "ann"), ("limit", "100")], [], ""⟩ [deepUser.toValue] := by
    simp only [listAnswer, linkedPage, positiveParameter, numberParameter, Request.parameter?,
      query]
  have refused : (Json.readValue Json.nestingLimit (linkedPage "/ziam/admin/api/v1/users"
      ⟨"GET", "", [("search", "ann"), ("limit", "100")], [], ""⟩
      [deepUser.toValue]).tokens).isNone = true := by
    decide +kernel
  rw [Json.parse?, readBack.scan_text, shown, Option.isNone_iff_eq_none.mp refused]

theorem comprises_deepUser :
    Comprises withDeepUser.contents "/ziam/admin/api/v1/users" [(1, deepUser)] :=
  ⟨rfl, List.pairwise_singleton ..⟩

theorem matching_deepUser : matching (some "ann") [(1, deepUser)] = [(1, deepUser)] :=
  List.filter_eq_self.mpr fun item member => by
    rcases List.mem_singleton.mp member with rfl
    exact matchesSearch_of_isNamed rfl

/-- A search for a user fails if the answer to it is nested more deeply than a text may be, although
the record of the user by itself is not. -/
theorem findByName_of_deepUser :
    ((localClient.findByName usersEndpoint "ann").perform ⟨none, withDeepUser⟩).1 =
      .error .malformedJson := by
  have reaches : Reaches countingSupply localClient.session.authenticator localClient.session.host
      id := reaches_direct isTokenText_countingSupply accepts_localCustomer 0
  let request := usersEndpoint.listRequest (Query.search "ann" [])
  rcases serve_list request leadsTo_users rfl isCollection_users comprises_deepUser
    with ⟨asked, query, served⟩
  have term : Query.lastValue? "search" request.query = some "ann" := rfl
  rw [term, matching_deepUser] at served
  have refused : servedPage usersEndpoint withDeepUser.contents request =
      .error .malformedJson := by
    rw [servedPage_of_serve served]
    exact readPage_unread (isBlankText_listAnswer ..) (parse?_listAnswer_deepUser query)
  have only : HasOnlyContentType request := fun header member => by cases member
  have performed := perform_readPage_of_reaches reaches usersEndpoint
    (leadsTo_users.isResource Http.Method.get) only ⟨none, withDeepUser⟩
  rcases read : (localClient.readPage usersEndpoint request).perform ⟨none, withDeepUser⟩
    with ⟨result, after⟩
  rw [read] at performed
  obtain rfl : result = .error .malformedJson := performed.1.trans refused
  exact perform_findByName_of_error read

/-- A label with a name. -/
def label (id : UInt64) (name : String) : Record :=
  ⟨[("id", .ofWord id), ("name", .string name)]⟩

/-- So many labels whose names have another name in them. -/
def namedAlike (count : Nat) : List (UInt64 × Record) :=
  (List.range count).map fun index => (UInt64.ofNat index, label (UInt64.ofNat index) "ab")

/-- These labels, and behind them one that has just that other name. -/
def labelsUpTo (count : Nat) : List (UInt64 × Record) :=
  namedAlike count ++ [(UInt64.ofNat count, label (UInt64.ofNat count) "b")]

/-- A sandbox that holds these labels. -/
def withLabelsUpTo (count : Nat) : State :=
  { State.empty with
    store := [("/zia/api/v1/ruleLabels",
      (labelsUpTo count).map fun item => (item.1, item.2.toValue))] }

/-- The labels of the customer on this machine, one on each page. -/
def labelsEndpoint : Endpoint :=
  ⟨"http://127.0.0.1:3000/zia/api/v1/ruleLabels", .ziaSized 1⟩

/-- A client that may read more pages than there are numbers for. -/
def patientClient : Client State :=
  { localClient with maxPages := UInt32.size }

theorem leadsTo_labels : LeadsTo labelsEndpoint.url "/zia/api/v1/ruleLabels" := by
  have parsed : (Url.parse labelsEndpoint.url).toOption =
      some ⟨"http".toList, some ⟨[], .ipv4 0x7F000001, some 3000⟩,
        .segments ["zia".toList, "api".toList, "v1".toList, "ruleLabels".toList], none, none⟩ := by
    decide +kernel
  exact ⟨_, eq_ok_of_toOption parsed, by decide, rfl, by decide, by decide⟩

theorem isCollection_labels : IsCollection .zia "/zia/api/v1/ruleLabels" :=
  ⟨by decide +kernel, by decide +kernel, by decide +kernel⟩

section Labels

variable {count : Nat}

theorem length_namedAlike (count : Nat) : (namedAlike count).length = count := by
  rw [namedAlike, List.length_map, List.length_range]

theorem exists_of_mem_labelsUpTo {item : UInt64 × Record} (member : item ∈ labelsUpTo count) :
    ∃ id name, item = (id, label id name) ∧ (name = "ab" ∨ name = "b") := by
  rcases List.mem_append.mp member with earlier | last
  · rcases List.mem_map.mp earlier with ⟨index, -, rfl⟩
    exact ⟨_, _, rfl, .inl rfl⟩
  · exact ⟨_, _, List.mem_singleton.mp last, .inr rfl⟩

theorem isAscending_labelsUpTo (few : count < UInt64.size) :
    Assoc.IsAscending (labelsUpTo count) := by
  have below {earlier later : Nat} (less : earlier < later) (inRange : later ≤ count) :
      UInt64.ofNat earlier < UInt64.ofNat later := by
    rw [UInt64.lt_iff_toNat_lt, UInt64.toNat_ofNat_of_lt' (by omega),
      UInt64.toNat_ofNat_of_lt' (by omega)]
    exact less
  refine List.pairwise_append.mpr ⟨?_, List.pairwise_singleton .., ?_⟩
  · refine List.pairwise_map.mpr (List.pairwise_lt_range.imp_of_mem ?_)
    intro earlier later _ inRange less
    exact below less (Nat.le_of_lt (List.mem_range.mp inRange))
  · intro earlier member last isLast
    rcases List.mem_map.mp member with ⟨index, inRange, rfl⟩
    rw [List.mem_singleton.mp isLast]
    exact below (List.mem_range.mp inRange) (Nat.le_refl _)

theorem readsBack_label (id : UInt64) (name : String) (depth : Nat) :
    (label id name).toValue.ReadsBack (depth + 1) := by
  refine .object (Assoc.isAscending_of_keys ["id", "name"] rfl (by decide)) ?_
  intro field member
  simp only [label, List.mem_cons, List.not_mem_nil, or_false] at member
  rcases member with rfl | rfl
  · exact .ofWord _
  · exact .string _

theorem areReadBack_labelsUpTo : AreReadBack .zia (labelsUpTo count) := by
  intro item member
  rcases exists_of_mem_labelsUpTo member with ⟨id, name, rfl, -⟩
  exact readsBack_label id name _

/-- A search for the name of the last label finds all of them. -/
theorem matching_labelsUpTo : matching (some "b") (labelsUpTo count) = labelsUpTo count := by
  refine List.filter_eq_self.mpr fun item member => ?_
  rcases exists_of_mem_labelsUpTo member with ⟨id, name, rfl, isName⟩
  have given : ((label id name).toValue.field? "name").bind Json.Value.toString? = some name := rfl
  simp only [matchesSearch, given]
  rcases isName with rfl | rfl <;> decide +kernel

/-- A label is missed if the pages before it have used up all numbers, although the client may read
as many pages as there are. -/
theorem findByName_of_labelsUpTo (full : count = UInt32.size - 1) :
    ((patientClient.findByName labelsEndpoint "b").perform ⟨none, withLabelsUpTo count⟩).1 =
      .ok none := by
  have few : count < UInt64.size := by
    rw [full]
    decide
  have comprises : Comprises (withLabelsUpTo count).contents "/zia/api/v1/ruleLabels"
      (labelsUpTo count) := ⟨rfl, isAscending_labelsUpTo few⟩
  have term : Query.lastValue? "search" (Query.search "b" []) = some "b" := rfl
  have walked := (perform_listAll_matching patientClient
    (reaches_direct isTokenText_countingSupply accepts_localCustomer 0) labelsEndpoint
    (Query.search "b" []) (.bare 1 rfl (.byDefault rfl)) leadsTo_labels isCollection_labels
    ⟨none, withLabelsUpTo count⟩ comprises
    (by rw [term, matching_labelsUpTo]; exact areReadBack_labelsUpTo) fun _ _ => .inl rfl).1
  have one : (clampPageSize 1).toNat = 1 := rfl
  have reached : withinReach .zia (some (clampPageSize 1)) (labelsUpTo count) =
      namedAlike count := by
    have pages : Style.zia.mostPages (clampPageSize 1) = count := full.symm
    rw [withinReach, one, Nat.mul_one, pages, labelsUpTo,
      List.take_left' (length_namedAlike count)]
  have whole : onPages (max patientClient.maxPages 1) (some (clampPageSize 1)) (namedAlike count) =
      namedAlike count := by
    refine List.take_of_length_le ?_
    rw [length_namedAlike, full, one, Nat.mul_one]
    exact Nat.le_trans (Nat.sub_le ..) (Nat.le_max_left ..)
  rw [term, matching_labelsUpTo, reached, whole] at walked
  have missed : ((namedAlike count).map Prod.snd).find? (isNamed "b") = none := by
    rw [List.find?_eq_none]
    intro record member
    rcases List.mem_map.mp member with ⟨item, inList, rfl⟩
    rcases List.mem_map.mp inList with ⟨index, -, rfl⟩
    have given : (label (UInt64.ofNat index) "ab").name? = some "ab" := rfl
    rw [isNamed, given]
    decide
  rw [perform_findByName_of_listed walked, missed]

/-- The last label has the name, and all that the search finds would fit on the pages. -/
theorem fits_labelsUpTo (full : count = UInt32.size - 1) :
    Comprises (withLabelsUpTo count).contents "/zia/api/v1/ruleLabels" (labelsUpTo count) ∧
      (∃ item ∈ labelsUpTo count, item.2.name? = some "b") ∧
      (matching (some "b") (labelsUpTo count)).length ≤ max patientClient.maxPages 1 * 1 := by
  have few : count < UInt64.size := by
    rw [full]
    decide
  have all : UInt32.size - 1 + 1 = UInt32.size := Nat.sub_add_cancel (by decide)
  refine ⟨⟨rfl, isAscending_labelsUpTo few⟩, ?_, ?_⟩
  · exact ⟨_, List.mem_append_right _ (List.mem_singleton_self _), rfl⟩
  · rw [matching_labelsUpTo, labelsUpTo, List.length_append, length_namedAlike, full,
      List.length_singleton, Nat.mul_one, all]
    exact Nat.le_max_left ..

end Labels

/-- A record that has the name is not found if the answer to the search cannot be read, or if there
is no number for the page that it is on. -/
theorem findByName_fails_out_of_reach :
    (Comprises withDeepUser.contents "/ziam/admin/api/v1/users" [(1, deepUser)] ∧
      deepUser.toValue.ReadsBack Json.nestingLimit ∧ deepUser.name? = some "ann" ∧
      (matching (some "ann") [(1, deepUser)]).length ≤ max localClient.maxPages 1 * 100 ∧
      ((localClient.findByName usersEndpoint "ann").perform ⟨none, withDeepUser⟩).1 =
        .error .malformedJson) ∧
    ∃ count, count = UInt32.size - 1 ∧
      (Comprises (withLabelsUpTo count).contents "/zia/api/v1/ruleLabels" (labelsUpTo count) ∧
        (∃ item ∈ labelsUpTo count, item.2.name? = some "b") ∧
        (matching (some "b") (labelsUpTo count)).length ≤ max patientClient.maxPages 1 * 1) ∧
      AreReadBack .zia (labelsUpTo count) ∧
      ((patientClient.findByName labelsEndpoint "b").perform ⟨none, withLabelsUpTo count⟩).1 =
        .ok none := by
  refine ⟨⟨comprises_deepUser, readsBack_deepUser, rfl, ?_, findByName_of_deepUser⟩, ?_⟩
  · rw [matching_deepUser]
    decide
  · obtain ⟨count, full⟩ : ∃ count, count = UInt32.size - 1 := ⟨_, rfl⟩
    exact ⟨count, full, fits_labelsUpTo full, areReadBack_labelsUpTo, findByName_of_labelsUpTo full⟩

end Finding

end CloudAdmin.Sandbox
