import CloudAdmin.Proofs.Client.Paging
import CloudAdmin.Proofs.Json.RoundTrip
import CloudAdmin.Proofs.Sandbox.Target

/-!
# Pages of a sandbox

Clients and sandboxes count pages independently of each other: a client stops at a short page, at
the last of so many pages, or when there is no cursor, and a sandbox cuts a list by a number or by
an offset. This file shows, style by style, that the page which a client reads from an answer is the
slice of the list that starts where the page before it ended, and that the client asks for another
one unless nothing is left, or there is no word for another. All numbers stay below the bounds of
the words that they are kept in, because no page is asked for that there is no word for.
-/

namespace CloudAdmin.Sandbox

namespace Style

/-- The parameter that marks where a page starts. -/
def markName : Style → String
  | .zia | .zpa => "page"
  | .zidentity | .zdx | .results => "offset"

/-- What marks the page of an index. -/
def mark (style : Style) (size : UInt32) (index : Nat) : Option String :=
  match style with
  | .zia | .zpa => some (Text.decimal (index + 1))
  | .zidentity | .zdx | .results =>
      if index = 0 then none else some (Text.decimal (index * size.toNat))

/-- The parameter that says how large a page is. -/
def sizeName : Style → String
  | .zia => "pageSize"
  | .zpa => "pagesize"
  | .zidentity | .zdx | .results => "limit"

/-- How large a page is unless a request says so. -/
def usualSize : Style → UInt64
  | .zpa => defaultZpaPageSize
  | .zia | .zidentity | .zdx | .results => defaultPageSize

/-- How many pages of a list there are words for. The number of a page fits a word of 32 bits, and
an offset fits one of 64. -/
def mostPages (style : Style) (size : UInt32) : Nat :=
  match style with
  | .zia | .zpa => UInt32.size - 1
  | .zidentity | .zdx | .results => (UInt64.size - 1) / size.toNat

theorem mostPages_pos (style : Style) {size : UInt32} (positive : 0 < size.toNat) :
    0 < style.mostPages size := by
  have small : size.toNat < UInt32.size := size.toNat_lt
  have measured : 0 < (UInt64.size - 1) / size.toNat :=
    Nat.div_pos (Nat.le_trans (Nat.le_of_lt small) (by decide)) positive
  have numbered : 0 < UInt32.size - 1 := by decide
  cases style with
  | zia | zpa => exact numbered
  | zidentity | zdx | results => exact measured

theorem sizeName_ne_markName (style : Style) : style.sizeName ≠ style.markName := by
  cases style <;> decide

theorem search_ne_markName (style : Style) : "search" ≠ style.markName := by
  cases style <;> decide

end Style

/-- Whether a query says once how large a page is to be. No page is smaller than one record. -/
def SaysSize (name : String) (query : Query) (size : UInt32) : Prop :=
  ∃ text value, (query.filter fun pair => pair.1 == name) = [(name, text)] ∧
    Text.toWord32? text = some value ∧ size = max value 1

/-- Whether so many records fit on the pages that there are words for. They need not where an answer
is a bare array, since that does not say what is behind it. -/
def FitsPages (style : Style) (size : UInt32) (total : Nat) : Prop :=
  style = .zia ∨ total ≤ style.mostPages size * size.toNat

/-- Whether a request asks for the page of an index. There is a word for the page. -/
def AsksForPage (style : Style) (url : String) (others : Query) (size : UInt32) (index : Nat)
    (request : Http.Request) : Prop :=
  request.AsksFor url style.markName (style.mark size index) others ∧ index < style.mostPages size

/-- Whether a client that has read the page of an index asks for the one behind it, unless the page
was the last or there is no word for another. -/
def GoesOn (style : Style) (url : String) (others : Query) (size : UInt32) (index total : Nat)
    (next : Option Http.Request) : Prop :=
  (next = none → min (style.mostPages size * size.toNat) total ≤ (index + 1) * size.toNat) ∧
    ∀ following, next = some following → AsksForPage style url others size (index + 1) following

section Words

theorem toNat_max_word64 (a b : UInt64) : (max a b).toNat = max a.toNat b.toNat := by
  change (if a ≤ b then b else a).toNat = _
  rw [Nat.max_def]
  simp only [UInt64.le_iff_toNat_le]
  split <;> rfl

theorem toNat_max_word32 (a b : UInt32) : (max a b).toNat = max a.toNat b.toNat := by
  change (if a ≤ b then b else a).toNat = _
  rw [Nat.max_def]
  simp only [UInt32.le_iff_toNat_le]
  split <;> rfl

theorem SaysSize.positive {name : String} {query : Query} {size : UInt32}
    (stated : SaysSize name query size) : 0 < size.toNat := by
  rcases stated with ⟨text, value, -, -, rfl⟩
  rw [toNat_max_word32]
  exact Nat.lt_of_lt_of_le Nat.zero_lt_one (Nat.le_max_right ..)

theorem offset_lt {style : Style} {size : UInt32} {index : Nat}
    (inRange : index < style.mostPages size) : (index + 1) * size.toNat < UInt64.size := by
  have counted (inRange : index < UInt32.size - 1) : (index + 1) * size.toNat < UInt64.size := by
    have bound := Nat.mul_lt_mul'' (Nat.add_lt_of_lt_sub inRange) size.toNat_lt
    exact Nat.lt_of_lt_of_le bound (by decide)
  have measured (inRange : index < (UInt64.size - 1) / size.toNat) :
      (index + 1) * size.toNat < UInt64.size :=
    Nat.lt_of_le_of_lt (Nat.mul_le_of_le_div _ _ _ inRange) (by decide)
  cases style with
  | zia | zpa => exact counted inRange
  | zidentity | zdx | results => exact measured inRange

theorem le_mostPages_of_lt (style : Style) {size : UInt32} {total : Nat}
    (positive : 0 < size.toNat) (few : total < UInt32.size) :
    total ≤ style.mostPages size * size.toNat := by
  have measured : total ≤ (UInt64.size - 1) / size.toNat * size.toNat := by
    have rest := Nat.div_add_mod' (UInt64.size - 1) size.toNat
    have less := Nat.mod_lt (UInt64.size - 1) positive
    have small : size.toNat < UInt32.size := size.toNat_lt
    have large : UInt32.size + UInt32.size ≤ UInt64.size - 1 := by decide
    omega
  cases style with
  | zia | zpa => exact canBeNumbered_of_lt positive few
  | zidentity | zdx | results => exact measured

end Words

section Parameters

variable {style : Style} {url : String} {others : Query} {size : UInt32} {index : Nat}
  {request : Http.Request} {asked : Request}

theorem toNat_positiveParameter (name : String) (usual : UInt64) (request : Request) :
    (positiveParameter name usual request).toNat =
      max (numberParameter name usual request).toNat 1 := by
  rw [positiveParameter, toNat_max_word64]
  rfl

theorem toNat_sizeParameter {name mark : String} {value : Option String}
    (asks : request.AsksFor url mark value others) (different : name ≠ mark)
    (same : asked.query = request.query) (stated : SaysSize name others size) (default : UInt64) :
    (positiveParameter name default asked).toNat = size.toNat := by
  rcases stated with ⟨text, word, once, read, rfl⟩
  have given : asked.parameter? name = some text := by
    rw [Request.parameter?, same, asks.lastValue?_other different, Query.lastValue?_eq_getLast?,
      once]
    rfl
  rw [positiveParameter, numberParameter, given, Option.bind_some, Text.toWord64?_of_toWord32? read,
    Option.getD_some, toNat_max_word64, toNat_max_word32]
  rfl

theorem sizeInRequest {name mark : String} {value : Option String}
    (asks : request.AsksFor url mark value others) (different : name ≠ mark)
    (stated : SaysSize name others size) (default : UInt32) :
    ∃ word, ((request.queryValue? name).bind Text.toWord32?).getD default = word ∧
      size = max word 1 := by
  rcases stated with ⟨text, word, once, read, rfl⟩
  have given : request.queryValue? name = some text := by
    change Query.value? name request.query = _
    rw [asks.value?_other different, Query.value?_eq_head?, once]
    rfl
  exact ⟨word, by rw [given, Option.bind_some, read]; rfl, rfl⟩

theorem toNat_numberParameter {name : String} {number : Nat} (default : UInt64)
    (given : asked.parameter? name = some (Text.decimal number)) (fits : number < UInt64.size) :
    (numberParameter name default asked).toNat = number := by
  rw [numberParameter, given, Option.bind_some, Text.toWord64?_decimal_of_lt fits, Option.getD_some,
    UInt64.toNat_ofNat_of_lt' fits]

theorem toNat_pageParameter
    (asks : request.AsksFor url "page" (some (Text.decimal (index + 1))) others)
    (same : asked.query = request.query) (inRange : index + 1 < UInt32.size) :
    (positiveParameter "page" 1 asked).toNat = index + 1 := by
  have given : asked.parameter? "page" = some (Text.decimal (index + 1)) := by
    rw [Request.parameter?, same, asks.lastValue?_mark]
  have number := toNat_numberParameter 1 given (Nat.lt_trans inRange (by decide))
  rw [toNat_positiveParameter, number]
  exact Nat.max_eq_left (by simp)

theorem toNat_offsetParameter
    (asks : request.AsksFor url "offset"
      (if index = 0 then none else some (Text.decimal (index * size.toNat))) others)
    (same : asked.query = request.query) (inRange : (index + 1) * size.toNat < UInt64.size) :
    (numberParameter "offset" 0 asked).toNat = index * size.toNat := by
  have given : asked.parameter? "offset" =
      if index = 0 then none else some (Text.decimal (index * size.toNat)) := by
    rw [Request.parameter?, same, asks.lastValue?_mark]
  by_cases first : index = 0
  · rw [if_pos first] at given
    simp [numberParameter, given, first]
  · rw [if_neg first] at given
    have fits : index * size.toNat < UInt64.size :=
      Nat.lt_of_le_of_lt (Nat.mul_le_mul_right _ (Nat.le_succ _)) inRange
    exact toNat_numberParameter 0 given fits

end Parameters

section Slices

variable {style : Style} {url : String} {others : Query} {size : UInt32} {index : Nat}
  {request : Http.Request} {asked : Request} {records : List Record}

/-- The start of a page that is counted from one is kept in a word. -/
theorem numberedPage_eq_drop {page : UInt64} (positive : 1 ≤ page.toNat) (size : UInt64)
    (values : List Json.Value) :
    numberedPage page size values =
      (values.drop ((page.toNat - 1) * size.toNat % UInt64.size)).take size.toNat := by
  have before : (page - 1).toNat = page.toNat - 1 :=
    UInt64.toNat_sub_of_le _ _ (UInt64.le_iff_toNat_le.mpr positive)
  rw [numberedPage, slice, UInt64.toNat_mul, before]

theorem numberedPage_eq {page size : UInt64} (number : page.toNat = index + 1)
    (fits : index * size.toNat < UInt64.size) (values : List Json.Value) :
    numberedPage page size values = (values.drop (index * size.toNat)).take size.toNat := by
  rw [numberedPage_eq_drop (by omega), number, Nat.add_sub_cancel, Nat.mod_eq_of_lt fits]

theorem slice_map_toValue (start count : Nat) (records : List Record) :
    ((records.map Record.toValue).drop start).take count =
      ((records.drop start).take count).map Record.toValue := by
  rw [List.map_take, List.map_drop]

theorem itemsAt_of_array {key : String} {body : Json.Value} (records : List Record)
    (found : body.field? key = some (.array (records.map Record.toValue))) :
    Page.itemsAt key body = .ok records := by
  rw [Page.itemsAt, found]
  exact Record.mapM_ofValue_map_toValue records

theorem toNat_clampPageSize_le (word : UInt32) :
    (clampPageSize word).toNat ≤ (max word 1).toNat := by
  have one : (1 : UInt32).toNat = 1 := rfl
  rw [toNat_clampPageSize, toNat_max_word32, one]
  exact Nat.min_le_left ..

/-- Numbers of pages do not run out before the records do. -/
theorem goesOn_nextPage {total : Nat} {again : Prop} [Decidable again]
    (numbered : style.markName = "page") (counted : style.mostPages size = UInt32.size - 1)
    (byNumber : ∀ index, style.mark size index = some (Text.decimal (index + 1)))
    (asks : AsksForPage style url others size index request)
    (stop : ¬again → total ≤ (index + 1) * size.toNat) :
    GoesOn style url others size index total
      (if again then request.nextPage? "page" 1 else none) := by
  rcases asks with ⟨marked, inRange⟩
  rw [numbered, byNumber] at marked
  rw [counted] at inRange
  -- What is behind the last page that there is a number for does not count.
  have few : CanBeNumbered (min (style.mostPages size * size.toNat) total) size.toNat := by
    rw [counted]
    exact Nat.min_le_left ..
  have isNumber : again → index + 1 < UInt32.size := fun _ => Nat.add_lt_of_lt_sub inRange
  have enough : ¬again → min (style.mostPages size * size.toNat) total ≤ (index + 1) * size.toNat :=
    fun finished => Nat.le_trans (Nat.min_le_right ..) (stop finished)
  rcases marked.goesOn_nextPage? 1 isNumber few enough with ⟨last, following⟩
  refine ⟨last, fun next found => ?_⟩
  rcases following next found with ⟨asks, fits⟩
  rw [AsksForPage, numbered, counted, byNumber]
  exact ⟨asks, by omega⟩

/-- A client that reads a bare array gets the slice, and stops only at a page that is short. It may
take a page for full that is not, if the page is larger than those that it would ask for. -/
theorem ofValue_arrayPage (smallest : UInt32)
    (asks : AsksForPage .zia url others size index request)
    (same : asked.query = request.query) (stated : SaysSize "pageSize" others size) :
    ∃ next, Page.ofValue (.ziaSized smallest) request
        (arrayPage asked (records.map Record.toValue)) =
      .ok ⟨(records.drop (index * size.toNat)).take size.toNat, next⟩ ∧
        GoesOn .zia url others size index records.length next := by
  have ⟨marked, inRange⟩ := asks
  have fits := Nat.lt_of_le_of_lt (Nat.mul_le_mul_right _ (Nat.le_succ _)) (offset_lt inRange)
  have inRange : index + 1 < UInt32.size := Nat.add_lt_of_lt_sub inRange
  have number := toNat_pageParameter marked same inRange
  have width := toNat_sizeParameter marked (by decide) same stated defaultPageSize
  have page := numberedPage_eq number (by rw [width]; exact fits) (records.map Record.toValue)
  rw [width, slice_map_toValue] at page
  rcases sizeInRequest marked (by decide) stated (clampPageSize smallest) with ⟨word, read, atLeast⟩
  have items : Page.arrayItems (arrayPage asked (records.map Record.toValue)) =
      .ok ((records.drop (index * size.toNat)).take size.toNat) := by
    simp only [arrayPage, page]
    exact Record.mapM_ofValue_map_toValue _
  refine ⟨if (clampPageSize word).toNat ≤
      ((records.drop (index * size.toNat)).take size.toNat).length
    then request.nextPage? "page" 1 else none, ?_, ?_⟩
  · simp only [Pagination.ziaSized, Page.ofValue, items, read]
    rfl
  · apply goesOn_nextPage rfl rfl (fun _ => rfl) asks
    intro short
    have least := toNat_clampPageSize_le word
    rw [← atLeast] at least
    rw [List.length_take, List.length_drop] at short
    rw [Nat.succ_mul]
    omega

theorem field?_countedPage_list (asked : Request) (values : List Json.Value) :
    (countedPage asked values).field? "list" =
      let onPage := numberedPage (positiveParameter "page" 1 asked)
        (positiveParameter "pagesize" defaultZpaPageSize asked) values
      if onPage.isEmpty then none else some (.array onPage) := by
  simp only [countedPage, Json.Value.ofFields, Json.Value.field?, Assoc.find?_ofList]
  split <;> simp

theorem field?_countedPage_totalPages (asked : Request) (values : List Json.Value) :
    (countedPage asked values).field? "totalPages" =
      let width := (positiveParameter "pagesize" defaultZpaPageSize asked).toNat
      some (.string (Text.decimal ((values.length + width - 1) / width))) := by
  simp only [countedPage, Json.Value.ofFields, Json.Value.field?, Assoc.find?_ofList]
  split <;> simp

/-- The pages that are counted are as few as hold all records. -/
theorem pages_le_iff {total size : Nat} (positive : 0 < size) (count : Nat) :
    (total + size - 1) / size ≤ count ↔ total ≤ count * size := by
  rw [← Nat.lt_succ_iff, Nat.div_lt_iff_lt_mul positive, Nat.succ_mul]
  omega

/-- A client that reads an envelope that counts the pages gets the slice, and stops at the last
page. -/
theorem ofValue_countedPage (asks : AsksForPage .zpa url others size index request)
    (same : asked.query = request.query) (stated : SaysSize "pagesize" others size)
    (few : FitsPages .zpa size records.length) :
    ∃ next, Page.ofValue .zpa request (countedPage asked (records.map Record.toValue)) =
      .ok ⟨(records.drop (index * size.toNat)).take size.toNat, next⟩ ∧
        GoesOn .zpa url others size index records.length next := by
  have ⟨marked, inRange⟩ := asks
  have fits := Nat.lt_of_le_of_lt (Nat.mul_le_mul_right _ (Nat.le_succ _)) (offset_lt inRange)
  have inRange : index + 1 < UInt32.size := Nat.add_lt_of_lt_sub inRange
  have number := toNat_pageParameter marked same inRange
  have width := toNat_sizeParameter marked (by decide) same stated defaultZpaPageSize
  have page := numberedPage_eq number (by rw [width]; exact fits) (records.map Record.toValue)
  rw [width, slice_map_toValue] at page
  have items : Page.itemsAt "list" (countedPage asked (records.map Record.toValue)) =
      .ok ((records.drop (index * size.toNat)).take size.toNat) := by
    have found := field?_countedPage_list asked (records.map Record.toValue)
    simp only [page] at found
    by_cases empty : (records.drop (index * size.toNat)).take size.toNat = []
    · rw [empty] at found ⊢
      simp [Page.itemsAt, found]
    · exact itemsAt_of_array _ (found.trans (if_neg (by simpa using empty)))
  have pages : (Page.totalPages (countedPage asked (records.map Record.toValue))).toNat =
      (records.length + size.toNat - 1) / size.toNat := by
    have bound : (records.length + size.toNat - 1) / size.toNat < UInt64.size := by
      have total : records.length + size.toNat < UInt64.size := by
        have most : (UInt32.size - 1) * size.toNat < (UInt32.size - 1) * UInt32.size :=
          Nat.mul_lt_mul_of_pos_left size.toNat_lt (by decide)
        have small : size.toNat < UInt32.size := size.toNat_lt
        have fits : (UInt32.size - 1) * UInt32.size + UInt32.size = UInt64.size := by decide
        have few : records.length ≤ (UInt32.size - 1) * size.toNat := few.resolve_left nofun
        omega
      exact Nat.lt_of_le_of_lt (Nat.div_le_self ..) (by omega)
    simp only [Page.totalPages, field?_countedPage_totalPages, width, List.length_map,
      Text.toWord64?_decimal_of_lt bound, Option.getD_some]
    exact UInt64.toNat_ofNat_of_lt' bound
  refine ⟨if index + 1 < (records.length + size.toNat - 1) / size.toNat
    then request.nextPage? "page" 1 else none, ?_, ?_⟩
  · have current : (request.pageNumber "page" 1).toNat = index + 1 :=
      marked.toNat_pageNumber inRange 1
    simp only [Pagination.zpa, Page.ofValue, items, pages, current]
    rfl
  · apply goesOn_nextPage rfl rfl (fun _ => rfl) asks
    intro last
    exact (pages_le_iff stated.positive (index + 1)).mp (Nat.le_of_not_lt last)

end Slices

section Cursors

variable {url : String} {others : Query} {size : UInt32} {index : Nat} {request : Http.Request}
  {asked : Request} {records : List Record}

theorem formEncode_decimal (value : Nat) :
    Url.formEncode (Text.decimal value) = (Text.decimal value).toList := by
  apply Url.formEncode_of_isFormSafe
  intro c member
  simp [Url.isFormSafe, Char.isAlphanum, Text.isDigit_of_mem_decimal member]

theorem isHostText_mock : Url.IsHostText "mock".toList := by
  have all : "mock".toList.all (fun c => !Url.endsAuthority true c && !Url.isIgnored c) = true := by
    decide
  intro c member
  simpa using List.all_eq_true.mp all c member

/-- The cursor in the link of a sandbox is where the next page starts. -/
theorem cursorInLink?_of_link {path : String} (starts : ∀ c, path.toList.head? = some c → c = '/')
    (noQuery : '?' ∉ path.toList) (noFragment : '#' ∉ path.toList) (start limit : Nat) :
    Page.cursorInLink? "offset" (String.join ["http://mock", path, "?offset=", Text.decimal start,
      "&limit=", Text.decimal limit]) = some (Text.decimal start) := by
  have host : Url.parseAuthority "http".toList "mock".toList true =
      .ok (⟨[], .name "mock".toList, none⟩, []) :=
    eq_ok_of_toOption (by decide +kernel)
  rcases Url.queryPairs_of_link (by decide) isHostText_mock host starts
      noQuery noFragment [("offset", Text.decimal start), ("limit", Text.decimal limit)]
      with ⟨read, parsed, pairs⟩
  have form :
      (Url.renderForm [("offset", Text.decimal start), ("limit", Text.decimal limit)]).toList =
      "offset=".toList ++ (Text.decimal start).toList ++ "&limit=".toList ++
        (Text.decimal limit).toList := by
    have name : Url.formEncode "offset" = "offset".toList := by decide
    have name' : Url.formEncode "limit" = "limit".toList := by decide
    simp [Url.renderForm, Url.formEncodePair, formEncode_decimal, name, name']
  have text : (String.join ["http://mock", path, "?offset=", Text.decimal start, "&limit=",
      Text.decimal limit]).toList = "http".toList ++ ':' :: '/' :: '/' :: ("mock".toList ++
        (path.toList ++ '?' :: (Url.renderForm
          [("offset", Text.decimal start), ("limit", Text.decimal limit)]).toList)) := by
    rw [form]
    simp [String.join]
  rw [Page.cursorInLink?, Url.parse, text, parsed]
  simp [pairs, Query.value?]

/-- The start of the next page is kept in a word, too. -/
theorem map_nextOffset? {Told : Type} (tell : Nat → Told) (offset limit : UInt64) (total : Nat) :
    (nextOffset? offset limit total).map (fun next => tell next.toNat) =
      if (offset.toNat + limit.toNat) % UInt64.size < total then
        some (tell ((offset.toNat + limit.toNat) % UInt64.size))
      else none := by
  rw [nextOffset?, ← UInt64.toNat_add]
  split <;> rfl

/-- Where a sandbox says that the next page starts. -/
theorem nextOffset?_eq {offset limit : UInt64} (inRange : (index + 1) * size.toNat < UInt64.size)
    (start : offset.toNat = index * size.toNat) (width : limit.toNat = size.toNat) (total : Nat) :
    (nextOffset? offset limit total).map (fun next => Text.decimal next.toNat) =
      if (index + 1) * size.toNat < total then some (Text.decimal ((index + 1) * size.toNat))
      else none := by
  have next : (offset.toNat + limit.toNat) % UInt64.size = (index + 1) * size.toNat := by
    rw [start, width, ← Nat.succ_mul]
    exact Nat.mod_eq_of_lt inRange
  rw [map_nextOffset?, next]

/-- A client that is told where the next page starts gets the slice, and stops when it is not told
so. -/
theorem ofValue_cursor {style : Style} {limit : Option (String × UInt32)} {itemsKey : String}
    {cursor : NextCursor} {body : Json.Value} (cursored : style.markName = "offset")
    (byOffset : ∀ index, style.mark size index =
      if index = 0 then none else some (Text.decimal (index * size.toNat)))
    (asks : AsksForPage style url others size index request) (positive : 0 < size.toNat)
    (few : records.length ≤ style.mostPages size * size.toNat)
    (items : Page.itemsAt itemsKey body =
      .ok ((records.drop (index * size.toNat)).take size.toNat))
    (found : Page.cursor? "offset" cursor body =
      if (index + 1) * size.toNat < records.length then
        some (Text.decimal ((index + 1) * size.toNat))
      else none) :
    ∃ next, Page.ofValue (.cursor "offset" limit itemsKey cursor) request body =
      .ok ⟨(records.drop (index * size.toNat)).take size.toNat, next⟩ ∧
        GoesOn style url others size index records.length next := by
  rcases asks with ⟨marked, inRange⟩
  rw [cursored, byOffset] at marked
  have step : (index + 1) * size.toNat = index * size.toNat + size.toNat := Nat.succ_mul ..
  refine ⟨if (index + 1) * size.toNat < records.length then
      some (request.withParam "offset" (Text.decimal ((index + 1) * size.toNat)))
    else none, ?_, ?_, ?_⟩
  · simp only [Page.ofValue, items, found, bind, Except.bind, pure, Except.pure, Except.ok.injEq,
      Page.mk.injEq, true_and]
    split
    · have notEmpty : ((records.drop (index * size.toNat)).take size.toNat).isEmpty = false := by
        rw [List.isEmpty_eq_false_iff, ← List.length_pos_iff, List.length_take, List.length_drop]
        omega
      have written : (Text.decimal ((index + 1) * size.toNat)).isEmpty = false := by
        simpa using Text.decimal_ne_empty _
      simp only [notEmpty, written, Option.filter_some, Bool.not_false, Bool.and_self, if_true,
        Option.map_some]
    · rfl
  · intro stopped
    split at stopped
    · cases stopped
    · exact Nat.le_trans (Nat.min_le_right ..) (by omega)
  · intro following told
    split at told
    · rcases Option.some.inj told with rfl
      rename_i left
      refine ⟨?_, Nat.lt_of_mul_lt_mul_right (Nat.lt_of_lt_of_le left few)⟩
      rw [cursored, byOffset, if_neg (Nat.succ_ne_zero index)]
      exact marked.withParam _
    · cases told

theorem slice_eq {offset limit : UInt64} (start : offset.toNat = index * size.toNat)
    (width : limit.toNat = size.toNat) :
    slice offset limit (records.map Record.toValue) =
      ((records.drop (index * size.toNat)).take size.toNat).map Record.toValue := by
  rw [slice, start, width, slice_map_toValue]

theorem field?_offsetPage_next (values : List Json.Value) :
    (offsetPage asked values).field? "next_offset" =
      some (match nextOffset? (numberParameter "offset" 0 asked)
          (positiveParameter "limit" defaultPageSize asked) values.length with
        | some start => Json.Value.string (Text.decimal start.toNat)
        | none => .null) := by
  simp only [offsetPage, Json.Value.ofFields, Json.Value.field?, Assoc.find?_ofList]
  cases nextOffset? (numberParameter "offset" 0 asked)
    (positiveParameter "limit" defaultPageSize asked) values.length <;> simp

theorem ofValue_offsetPage (asks : AsksForPage .zdx url others size index request)
    (same : asked.query = request.query) (few : FitsPages .zdx size records.length)
    (positive : 0 < size.toNat)
    (width : (positiveParameter "limit" defaultPageSize asked).toNat = size.toNat) :
    ∃ next, Page.ofValue .zdx request (offsetPage asked (records.map Record.toValue)) =
      .ok ⟨(records.drop (index * size.toNat)).take size.toNat, next⟩ ∧
        GoesOn .zdx url others size index records.length next := by
  have ⟨marked, counted⟩ := asks
  have inRange := offset_lt counted
  have start := toNat_offsetParameter marked same inRange
  apply ofValue_cursor rfl (fun _ => rfl) asks positive (few.resolve_left nofun)
  · apply itemsAt_of_array
    rw [offsetPage, ← slice_eq start width]
    simp [Json.Value.ofFields, Json.Value.field?, Assoc.find?_ofList]
  · have next := nextOffset?_eq inRange start width records.length
    rw [← next]
    simp only [Page.cursor?, field?_offsetPage_next, List.length_map]
    cases nextOffset? (numberParameter "offset" 0 asked)
      (positiveParameter "limit" defaultPageSize asked) records.length <;> rfl

theorem field?_linkedPage_next (path : String) (values : List Json.Value) :
    (linkedPage path asked values).field? "next_link" =
      let limit := positiveParameter "limit" defaultPageSize asked
      some (match nextOffset? (numberParameter "offset" 0 asked) limit values.length with
        | some start => Json.Value.string (String.join ["http://mock", path, "?offset=",
            Text.decimal start.toNat, "&limit=", Text.decimal limit.toNat])
        | none => .null) := by
  simp only [linkedPage, Json.Value.ofFields, Json.Value.field?, Assoc.find?_ofList]
  cases nextOffset? (numberParameter "offset" 0 asked)
    (positiveParameter "limit" defaultPageSize asked) values.length <;> simp

theorem ofValue_linkedPage {path : String} (starts : ∀ c, path.toList.head? = some c → c = '/')
    (noQuery : '?' ∉ path.toList) (noFragment : '#' ∉ path.toList)
    (asks : AsksForPage .zidentity url others size index request)
    (same : asked.query = request.query) (few : FitsPages .zidentity size records.length)
    (stated : SaysSize "limit" others size) :
    ∃ next, Page.ofValue .zidentity request
        (linkedPage path asked (records.map Record.toValue)) =
      .ok ⟨(records.drop (index * size.toNat)).take size.toNat, next⟩ ∧
        GoesOn .zidentity url others size index records.length next := by
  have ⟨marked, counted⟩ := asks
  have inRange := offset_lt counted
  have start := toNat_offsetParameter marked same inRange
  have width := toNat_sizeParameter marked (by decide) same stated defaultPageSize
  apply ofValue_cursor rfl (fun _ => rfl) asks stated.positive (few.resolve_left nofun)
  · apply itemsAt_of_array
    rw [linkedPage, ← slice_eq start width]
    simp [Json.Value.ofFields, Json.Value.field?, Assoc.find?_ofList]
  · have next := nextOffset?_eq inRange start width records.length
    rw [← next]
    simp only [Page.cursor?, field?_linkedPage_next, List.length_map, Option.bind_some]
    cases nextOffset? (numberParameter "offset" 0 asked)
      (positiveParameter "limit" defaultPageSize asked) records.length with
    | none => rfl
    | some offset =>
        simp only [Json.Value.toString?, Option.bind_some, Option.map_some]
        exact cursorInLink?_of_link starts noQuery noFragment offset.toNat _

end Cursors

end CloudAdmin.Sandbox
