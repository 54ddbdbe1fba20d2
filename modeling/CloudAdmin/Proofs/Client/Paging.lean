import CloudAdmin.Client
import CloudAdmin.Proofs.Result
import CloudAdmin.Proofs.Text.Numeral

/-!
# Walking through pages

Between the pages of a walk nothing changes in a request but the one parameter that marks where a
page starts. `AsksFor` says so: the mark is the only value of its parameter, and all others are what
they were. A walk that is dealt pages of one size, each starting where the one before it ended, and
that is told to go on as long as anything is left, yields the first records and as many as fit on
its pages.
-/

namespace CloudAdmin

namespace Query

variable {name other : String} {query : Query}

theorem value?_eq_head? : value? name query =
    ((query.filter fun pair => pair.1 == name).head?).map Prod.snd := by
  rw [value?, List.head?_filter]

theorem lastValue?_eq_getLast? : lastValue? name query =
    ((query.filter fun pair => pair.1 == name).getLast?).map Prod.snd := by
  rw [lastValue?, List.getLast?_eq_head?_reverse, ← List.filter_reverse, List.head?_filter]

theorem filter_filter_of_ne (different : other ≠ name) :
    (query.filter fun pair => pair.1 != name).filter (fun pair => pair.1 == other) =
      query.filter fun pair => pair.1 == other := by
  rw [List.filter_filter]
  apply List.filter_congr
  intro pair _
  by_cases same : pair.1 = other
  · simp [same, different]
  · simp [same]

theorem value?_filter_of_ne (different : other ≠ name) :
    value? other (query.filter fun pair => pair.1 != name) = value? other query := by
  rw [value?_eq_head?, value?_eq_head?, filter_filter_of_ne different]

theorem lastValue?_filter_of_ne (different : other ≠ name) :
    lastValue? other (query.filter fun pair => pair.1 != name) = lastValue? other query := by
  rw [lastValue?_eq_getLast?, lastValue?_eq_getLast?, filter_filter_of_ne different]

theorem has_eq_isSome_value? : has name query = (value? name query).isSome := by
  rw [Bool.eq_iff_iff, has, value?, Option.isSome_map, List.find?_isSome, List.any_eq_true]

theorem value?_append (name : String) (query more : Query) :
    value? name (query ++ more) = (value? name query).or (value? name more) := by
  rw [value?, List.find?_append, Option.map_or]
  rfl

theorem has_eq_isEmpty_filter :
    has name query = !(query.filter fun pair => pair.1 == name).isEmpty := by
  rw [has_eq_isSome_value?, value?_eq_head?]
  cases query.filter fun pair => pair.1 == name <;> rfl

end Query

/-- Whether so many items have no more pages of a size than there are numbers for pages. -/
def CanBeNumbered (total size : Nat) : Prop :=
  total ≤ (UInt32.size - 1) * size

theorem canBeNumbered_of_lt {total size : Nat} (positive : 0 < size) (few : total < UInt32.size) :
    CanBeNumbered total size :=
  Nat.le_trans (Nat.le_pred_of_lt few) (Nat.le_mul_of_pos_right _ positive)

namespace Http.Request

theorem withParam_withParam (name value other : String) (request : Request) :
    (request.withParam name value).withParam name other = request.withParam name other := by
  simp [withParam, List.filter_append, List.filter_filter]

/-- A parameter that is set anew is the only one of its name. -/
theorem filter_withParam_self (name value : String) (request : Request) :
    ((request.withParam name value).query.filter fun pair => pair.1 == name) = [(name, value)] := by
  have none : (request.query.filter fun pair => pair.1 != name).filter
      (fun pair => pair.1 == name) = [] := by
    rw [List.filter_filter, List.filter_eq_nil_iff]
    intro pair _
    simp
  simp [withParam, List.filter_append, none]

/-- Whether a request reads a URL with a mark under a name and with other parameters. -/
structure AsksFor (url name : String) (mark : Option String) (others : Query)
    (request : Request) : Prop where
  plain : request = { Request.read url with query := request.query }
  marked : (request.query.filter fun pair => pair.1 == name) =
    mark.toList.map fun value => (name, value)
  beside : (request.query.filter fun pair => pair.1 != name) = others

namespace AsksFor

variable {url name : String} {mark : Option String} {others : Query} {request : Request}

theorem value?_mark (asks : AsksFor url name mark others request) :
    Query.value? name request.query = mark := by
  rw [Query.value?_eq_head?, asks.marked]
  cases mark <;> rfl

theorem lastValue?_mark (asks : AsksFor url name mark others request) :
    Query.lastValue? name request.query = mark := by
  rw [Query.lastValue?_eq_getLast?, asks.marked]
  cases mark <;> rfl

theorem value?_other (asks : AsksFor url name mark others request) {other : String}
    (different : other ≠ name) : Query.value? other request.query = Query.value? other others := by
  rw [← asks.beside, Query.value?_filter_of_ne different]

theorem lastValue?_other (asks : AsksFor url name mark others request) {other : String}
    (different : other ≠ name) :
    Query.lastValue? other request.query = Query.lastValue? other others := by
  rw [← asks.beside, Query.lastValue?_filter_of_ne different]

/-- A parameter that is set anew is the only one of its name, and no other changes. -/
theorem withParam (asks : AsksFor url name mark others request) (value : String) :
    AsksFor url name (some value) others (request.withParam name value) where
  plain := by
    rw [Request.withParam, asks.plain]
  marked := filter_withParam_self name value request
  beside := by
    rw [← asks.beside]
    simp [Request.withParam, List.filter_append, List.filter_filter]

section Numbers

variable {page : Nat}

theorem toNat_pageNumber (asks : AsksFor url name (some (Text.decimal page)) others request)
    (inRange : page < UInt32.size) (firstPage : UInt32) :
    (request.pageNumber name firstPage).toNat = page := by
  have given : request.queryValue? name = some (Text.decimal page) := asks.value?_mark
  rw [pageNumber, given, Option.bind_some, Text.toWord32?_decimal_of_lt inRange, Option.getD_some,
    UInt32.toNat_ofNat_of_lt' inRange]

/-- The page with the next number comes next, as long as there is one. -/
theorem nextPage?_eq (asks : AsksFor url name (some (Text.decimal page)) others request)
    (inRange : page < UInt32.size) (firstPage : UInt32) :
    request.nextPage? name firstPage =
      if page + 1 < UInt32.size then some (request.withParam name (Text.decimal (page + 1)))
      else none := by
  have number := asks.toNat_pageNumber inRange firstPage
  unfold nextPage?
  simp only [number]
  split
  · rename_i fits
    have next : (request.pageNumber name firstPage + 1).toNat = page + 1 := by
      rw [UInt32.toNat_add, number]
      exact Nat.mod_eq_of_lt fits
    rw [decimalWord, next]
  · rfl

/-- Numbers of pages do not run out before the records do. -/
theorem goesOn_nextPage? {total size : Nat} {again : Prop} [Decidable again]
    (asks : AsksFor url name (some (Text.decimal page)) others request) (firstPage : UInt32)
    (inRange : again → page < UInt32.size) (few : CanBeNumbered total size)
    (stop : ¬again → total ≤ page * size) :
    ((if again then request.nextPage? name firstPage else none) = none → total ≤ page * size) ∧
      ∀ following, (if again then request.nextPage? name firstPage else none) = some following →
        AsksFor url name (some (Text.decimal (page + 1))) others following ∧
          page + 1 < UInt32.size := by
  by_cases goes : again
  · rw [if_pos goes, asks.nextPage?_eq (inRange goes)]
    constructor
    · intro stopped
      split at stopped
      · cases stopped
      · exact Nat.le_trans few (Nat.mul_le_mul_right size (by omega))
    · intro following found
      split at found
      · rename_i fits
        rcases Option.some.inj found with rfl
        exact ⟨asks.withParam _, fits⟩
      · cases found
  · rw [if_neg goes]
    exact ⟨fun _ => stop goes, fun _ found => by cases found⟩

end Numbers

end AsksFor

end Http.Request

namespace Record

theorem mapM_ofValue_map_toValue (records : List Record) :
    (records.map toValue).mapM ofValue = .ok records := by
  induction records with
  | nil => rfl
  | cons record records ih =>
      rw [List.map_cons, List.mapM_cons, ih]
      rfl

theorem mapM_ofValue_eq_ok_iff {values : List Json.Value} {records : List Record} :
    values.mapM ofValue = .ok records ↔ values = records.map toValue := by
  constructor
  · intro read
    induction values generalizing records with
    | nil =>
        cases read
        rfl
    | cons value rest ih =>
        rw [List.mapM_cons] at read
        rcases exists_of_bind_eq_ok read with ⟨record, isRecord, next⟩
        rcases exists_of_bind_eq_ok next with ⟨others, readRest, built⟩
        rcases Except.ok.inj built with rfl
        cases value with
        | object fields =>
            rcases Except.ok.inj isRecord with rfl
            rw [ih readRest]
            rfl
        | null | bool | number | string | array => cases isRecord
  · rintro rfl
    exact mapM_ofValue_map_toValue records

end Record

section Sizes

theorem toNat_clampPageSize (size : UInt32) :
    (clampPageSize size).toNat = min (max size.toNat 1) 10000 := by
  have greatest : greatestPageSize.toNat = 10000 := rfl
  unfold clampPageSize
  split
  · rename_i zero
    subst zero
    rfl
  · rename_i notZero
    have positive : size.toNat ≠ 0 := fun zero => notZero (UInt32.toNat_inj.mp zero)
    split
    · rename_i large
      have larger := UInt32.lt_iff_toNat_lt.mp large
      omega
    · rename_i small
      have smaller : ¬greatestPageSize.toNat < size.toNat :=
        fun large => small (UInt32.lt_iff_toNat_lt.mpr large)
      omega

theorem toNat_clampPageSize_pos (size : UInt32) : 0 < (clampPageSize size).toNat := by
  rw [toNat_clampPageSize]
  omega

end Sizes

namespace Client

/-- Whether the pages that requests are answered with are slices of one list, one after the other:
each says how to ask for the one behind it, unless nothing is left there. -/
def Deals (page : Http.Request → Except ApiError Page) (records : List Record) (size : Nat)
    (asks : Nat → Http.Request → Prop) : Prop :=
  ∀ (index : Nat) (request : Http.Request), asks index request →
    ∃ next, page request = .ok ⟨(records.drop (index * size)).take size, next⟩ ∧
      (next = none → records.length ≤ (index + 1) * size) ∧
        ∀ following, next = some following → asks (index + 1) following

variable {World : Type} {client : Client World} {endpoint : Endpoint} {records : List Record}
  {size : Nat} {asks : Nat → Http.Request → Prop}

/-- A walk yields as many records as fit on its pages, if each page is the slice of its index and
leads to the one behind it unless nothing is left there. That is needed only while some condition on
the state of the client holds, and the walk keeps it. -/
theorem perform_walk_of_read {holds : SessionState World → Prop}
    (read : ∀ index request state, asks index request → holds state → ∃ next,
      ((client.readPage endpoint request).perform state).1 =
          .ok ⟨(records.drop (index * size)).take size, next⟩ ∧
        (next = none → records.length ≤ (index + 1) * size) ∧
        (∀ following, next = some following → asks (index + 1) following) ∧
        holds ((client.readPage endpoint request).perform state).2)
    (pages : Nat) (index : Nat) (request : Http.Request) (state : SessionState World)
    (asked : asks index request) (held : holds state) :
    ((client.walk endpoint pages request).perform state).1 =
        .ok ((records.drop (index * size)).take (pages * size)) ∧
      holds ((client.walk endpoint pages request).perform state).2 := by
  induction pages generalizing index request state with
  | zero => exact ⟨by simp [walk], held⟩
  | succ pages ih =>
      rcases read index request state asked held with ⟨next, result, last, following, kept⟩
      rcases performed : (client.readPage endpoint request).perform state with ⟨answer, after⟩
      rw [performed] at result kept
      obtain rfl : answer = .ok ⟨(records.drop (index * size)).take size, next⟩ := result
      rw [walk, Action.perform_bind, performed]
      cases next with
      | none =>
          have short : (records.drop (index * size)).length ≤ size := by
            have enough := last rfl
            rw [Nat.succ_mul] at enough
            rw [List.length_drop]
            omega
          have whole : (records.drop (index * size)).take size =
              (records.drop (index * size)).take ((pages + 1) * size) := by
            rw [List.take_of_length_le short, List.take_of_length_le]
            rw [Nat.succ_mul]
            omega
          simp only [Action.perform_pure]
          exact ⟨congrArg _ whole, kept⟩
      | some later =>
          rcases ih (index + 1) later after (following later rfl) kept with ⟨rest, keptOn⟩
          rcases walked : (client.walk endpoint pages later).perform after with ⟨others, final⟩
          rw [walked] at rest keptOn
          obtain rfl : others = .ok ((records.drop ((index + 1) * size)).take (pages * size)) :=
            rest
          simp only [Action.perform_bind, walked, Action.perform_pure]
          refine ⟨congrArg _ ?_, keptOn⟩
          have split : (pages + 1) * size = size + pages * size := by
            rw [Nat.succ_mul, Nat.add_comm]
          rw [split, List.take_add, List.drop_drop, Nat.succ_mul]

/-- A walk through pages that are dealt yields as many records as fit on its pages. -/
theorem perform_walk {page : Http.Request → Except ApiError Page}
    {holds : SessionState World → Prop}
    (read : ∀ index request state, asks index request → holds state →
      ((client.readPage endpoint request).perform state).1 = page request ∧
        holds ((client.readPage endpoint request).perform state).2)
    (deals : Deals page records size asks) (pages : Nat) (index : Nat) (request : Http.Request)
    (state : SessionState World) (asked : asks index request) (held : holds state) :
    ((client.walk endpoint pages request).perform state).1 =
        .ok ((records.drop (index * size)).take (pages * size)) ∧
      holds ((client.walk endpoint pages request).perform state).2 := by
  apply perform_walk_of_read _ pages index request state asked held
  intro index request state asked held
  rcases deals index request asked with ⟨next, dealt, last, following⟩
  rcases read index request state asked held with ⟨result, kept⟩
  exact ⟨next, result.trans dealt, last, following, kept⟩

end Client

end CloudAdmin
