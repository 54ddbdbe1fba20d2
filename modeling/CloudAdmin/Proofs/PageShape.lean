import CloudAdmin.Proofs.Client.Paging
import CloudAdmin.Proofs.Json.RoundTrip

/-!
# Shapes of pages

Each paging strategy is for bodies of one shape, and designates one array in them whose elements are
the items of the page. Main statement: a body that is not blank is read as a page just if it has
that shape and all that is designated in it are objects, and these are the items then. There is one
exception. What is no object has no members, so a strategy that looks for its items under a key
finds none in it, and takes a body of another shape for an empty page: a bare array of records is
lost as a whole.
-/

namespace CloudAdmin

namespace Pagination

/-- The key under which a strategy keeps its items, if it is for envelopes alone. -/
def itemsKey? : Pagination → Option String
  | .countedPages _ => some "list"
  | .cursor _ _ itemsKey _ | .envelope itemsKey => some itemsKey
  | .single | .pageNumber _ _ _ _ => none

/-- Whether a body has the shape that a strategy is for. -/
def HasShape : Pagination → Json.Value → Prop
  | .pageNumber _ _ _ _, body => ∃ values, body = .array values
  | .single, body => (∃ values, body = .array values) ∨ ∃ fields, body = .object fields
  | .countedPages _, body | .cursor _ _ _ _, body | .envelope _, body =>
      ∃ fields, body = .object fields

/-- The values that a strategy designates as the items of a body. A body that is asked for at once
may be an envelope of which the key is not known, and if it is none it is an item itself. -/
inductive Designates : Pagination → Json.Value → List Json.Value → Prop where
  | numbered {pageParam sizeParam : String} {pageSize firstPage : UInt32}
      (values : List Json.Value) :
      Designates (.pageNumber pageParam sizeParam pageSize firstPage) (.array values) values
  | bare (values : List Json.Value) : Designates .single (.array values) values
  | unwrapped {fields : Json.Fields} {key : String} {before after : List String}
      {values : List Json.Value} (known : envelopeKeys = before ++ key :: after)
      (found : Assoc.find? key fields = some (.array values))
      (isFirst : ∀ earlier ∈ before, ∀ others, Assoc.find? earlier fields ≠ some (.array others)) :
      Designates .single (.object fields) values
  | alone {fields : Json.Fields}
      (noArray : ∀ key ∈ envelopeKeys, ∀ others, Assoc.find? key fields ≠ some (.array others)) :
      Designates .single (.object fields) [.object fields]
  | enclosed {pagination : Pagination} {key : String} {fields : Json.Fields}
      {values : List Json.Value} (isKey : pagination.itemsKey? = some key)
      (found : Assoc.find? key fields = some (.array values)) :
      Designates pagination (.object fields) values
  | missing {pagination : Pagination} {key : String} {fields : Json.Fields}
      (isKey : pagination.itemsKey? = some key)
      (nothing : Assoc.find? key fields = none ∨ Assoc.find? key fields = some .null) :
      Designates pagination (.object fields) []

/-- Whether a strategy loses a body: it looks for members where there are none. -/
def Loses (pagination : Pagination) (body : Json.Value) : Prop :=
  pagination.itemsKey?.isSome ∧ ∀ fields, body ≠ .object fields

/-- The items that a strategy reads from a body. -/
def readItems : Pagination → Json.Value → Except ApiError (List Record)
  | .single => Page.singleItems
  | .pageNumber _ _ _ _ => Page.arrayItems
  | .countedPages _ => Page.itemsAt "list"
  | .cursor _ _ itemsKey _ | .envelope itemsKey => Page.itemsAt itemsKey

end Pagination

namespace Page

variable {pagination : Pagination} {request : Http.Request} {records : List Record}

section Items

theorem arrayItems_eq_ok_iff {value : Json.Value} :
    arrayItems value = .ok records ↔ value = .array (records.map Record.toValue) := by
  cases value with
  | array values => rw [arrayItems, Record.mapM_ofValue_eq_ok_iff, Json.Value.array.injEq]
  | null | bool | number | string | object => simp [arrayItems]

theorem itemsAt_object_eq_ok_iff {key : String} {fields : Json.Fields} :
    itemsAt key (.object fields) = .ok records ↔
      Assoc.find? key fields = some (.array (records.map Record.toValue)) ∨
        (Assoc.find? key fields = none ∨ Assoc.find? key fields = some .null) ∧ records = [] := by
  have sought : Json.Value.field? key (.object fields) = Assoc.find? key fields := rfl
  rw [itemsAt, sought]
  cases Assoc.find? key fields with
  | none => simp [eq_comm]
  | some value =>
      cases value with
      | null => simp [eq_comm]
      | array | bool | number | string | object => simp [arrayItems_eq_ok_iff]

/-- What is no object holds nothing under any key. -/
theorem itemsAt_of_not_object {body : Json.Value} (notObject : ∀ fields, body ≠ .object fields)
    (key : String) : itemsAt key body = .ok [] := by
  cases body with
  | object fields => exact absurd rfl (notObject fields)
  | null | bool | number | string | array => rfl

theorem hasArrayAt_iff {fields : Json.Fields} {key : String} :
    hasArrayAt fields key = true ↔ ∃ values, Assoc.find? key fields = some (.array values) := by
  rw [hasArrayAt]
  split
  · rename_i values found
    exact ⟨fun _ => ⟨values, found⟩, fun _ => rfl⟩
  · rename_i noArray
    constructor
    · intro isArray
      cases isArray
    · intro hasArray
      rcases hasArray with ⟨values, found⟩
      exact absurd found (noArray values)

/-- The key of an envelope is the first one that holds an array. -/
theorem find?_hasArrayAt_eq_some_iff {fields : Json.Fields} {key : String} :
    envelopeKeys.find? (hasArrayAt fields) = some key ↔
      (∃ values, Assoc.find? key fields = some (.array values)) ∧
        ∃ before after, envelopeKeys = before ++ key :: after ∧ ∀ earlier ∈ before, ∀ others,
          Assoc.find? earlier fields ≠ some (.array others) := by
  have noArray (earlier : String) : (!hasArrayAt fields earlier) = true ↔
      ∀ others, Assoc.find? earlier fields ≠ some (.array others) := by
    rw [Bool.not_eq_true', ← Bool.not_eq_true, hasArrayAt_iff, not_exists]
  simp only [List.find?_eq_some_iff_append, hasArrayAt_iff, noArray]

theorem singleItems_object_eq_ok_iff {fields : Json.Fields} :
    singleItems (.object fields) = .ok records ↔
      Pagination.single.Designates (.object fields) (records.map Record.toValue) := by
  rw [singleItems]
  cases first : envelopeKeys.find? (hasArrayAt fields) with
  | none =>
      have noArray : ∀ key ∈ envelopeKeys, ∀ others,
          Assoc.find? key fields ≠ some (.array others) := by
        intro key known others found
        exact List.find?_eq_none.mp first key known (hasArrayAt_iff.mpr ⟨others, found⟩)
      constructor
      · intro read
        rcases Except.ok.inj read with rfl
        exact .alone noArray
      · intro designated
        generalize listed : records.map Record.toValue = values at designated
        cases designated with
        | unwrapped known found _ => exact absurd found (noArray _ (by simp [known]) _)
        | alone _ =>
            rw [← Record.mapM_ofValue_eq_ok_iff.mpr listed.symm]
            rfl
        | enclosed isKey _ | missing isKey _ => cases isKey
  | some key =>
      rcases find?_hasArrayAt_eq_some_iff.mp first
        with ⟨⟨values, found⟩, before, after, known, isFirst⟩
      simp only [itemsAt_object_eq_ok_iff, found, Option.some.injEq, Json.Value.array.injEq,
        reduceCtorEq, or_self, false_and, or_false]
      constructor
      · rintro rfl
        exact .unwrapped known found isFirst
      · intro designated
        generalize records.map Record.toValue = items at designated
        cases designated with
        | unwrapped known' found' isFirst' =>
            have sameKey := first.symm.trans
              (find?_hasArrayAt_eq_some_iff.mpr ⟨⟨_, found'⟩, _, _, known', isFirst'⟩)
            rcases Option.some.inj sameKey with rfl
            exact Json.Value.array.inj (Option.some.inj (found.symm.trans found'))
        | alone noArray => exact absurd found (noArray key (by simp [known]) values)
        | enclosed isKey _ | missing isKey _ => cases isKey

end Items

section Shapes

theorem hasShape_of_itemsKey? {key : String} (isKey : pagination.itemsKey? = some key)
    {body : Json.Value} : pagination.HasShape body ↔ ∃ fields, body = .object fields := by
  cases pagination with
  | single | pageNumber => cases isKey
  | countedPages | cursor | envelope => rfl

theorem designates_object_iff {key : String} (isKey : pagination.itemsKey? = some key)
    {fields : Json.Fields} {values : List Json.Value} :
    pagination.Designates (.object fields) values ↔
      Assoc.find? key fields = some (.array values) ∨
        (Assoc.find? key fields = none ∨ Assoc.find? key fields = some .null) ∧ values = [] := by
  constructor
  · intro designated
    cases designated with
    | unwrapped | alone => cases isKey
    | enclosed isKey' found =>
        rcases Option.some.inj (isKey.symm.trans isKey') with rfl
        exact .inl found
    | missing isKey' nothing =>
        rcases Option.some.inj (isKey.symm.trans isKey') with rfl
        exact .inr ⟨nothing, rfl⟩
  · rintro (found | ⟨nothing, rfl⟩)
    · exact .enclosed isKey found
    · exact .missing isKey nothing

/-- A strategy for envelopes reads what it designates in an object, and nothing in all else. -/
theorem itemsAt_eq_ok_iff {key : String} (isKey : pagination.itemsKey? = some key)
    {body : Json.Value} :
    itemsAt key body = .ok records ↔
      pagination.HasShape body ∧ pagination.Designates body (records.map Record.toValue) ∨
        pagination.Loses body ∧ records = [] := by
  rw [hasShape_of_itemsKey? isKey]
  by_cases isObject : ∃ fields, body = .object fields
  · rcases isObject with ⟨fields, rfl⟩
    simp [itemsAt_object_eq_ok_iff, designates_object_iff isKey, Pagination.Loses]
  · have notObject := not_exists.mp isObject
    simp [itemsAt_of_not_object notObject, Pagination.Loses, isKey, notObject, eq_comm]

/-- The items of a body are just what a strategy designates in it, unless the strategy loses the
body. -/
theorem readItems_eq_ok_iff {body : Json.Value} :
    pagination.readItems body = .ok records ↔
      pagination.HasShape body ∧ pagination.Designates body (records.map Record.toValue) ∨
        pagination.Loses body ∧ records = [] := by
  cases pagination with
  | countedPages | cursor | envelope => exact itemsAt_eq_ok_iff rfl
  | pageNumber =>
      simp only [Pagination.readItems, arrayItems_eq_ok_iff, Pagination.HasShape, Pagination.Loses,
        Pagination.itemsKey?, Option.isSome_none, Bool.false_eq_true, false_and, or_false]
      constructor
      · rintro rfl
        exact ⟨⟨_, rfl⟩, .numbered _⟩
      · rintro ⟨⟨values, rfl⟩, designated⟩
        cases designated
        rfl
  | single =>
      simp only [Pagination.readItems, Pagination.HasShape, Pagination.Loses, Pagination.itemsKey?,
        Option.isSome_none, Bool.false_eq_true, false_and, or_false]
      cases body with
      | object fields => simp [singleItems_object_eq_ok_iff]
      | array values =>
          simp only [singleItems, arrayItems_eq_ok_iff]
          constructor
          · rintro same
            rcases Json.Value.array.inj same with rfl
            exact ⟨.inl ⟨_, rfl⟩, .bare _⟩
          · rintro ⟨-, designated⟩
            cases designated
            rfl
      | null | bool | number | string => simp [singleItems]

/-- The request for the next page is read from a body whose items are known. -/
theorem exists_ofValue_eq_ok_iff {body : Json.Value} :
    (∃ next, ofValue pagination request body = .ok ⟨records, next⟩) ↔
      pagination.readItems body = .ok records := by
  have followed (read : Except ApiError (List Record)) (next : List Record → Option Http.Request) :
      (∃ following, (do let items ← read; return ⟨items, next items⟩ : Except ApiError Page) =
        .ok ⟨records, following⟩) ↔ read = .ok records := by
    cases read with
    | error error => simp [bind, Except.bind]
    | ok items => simp [bind, Except.bind, pure, Except.pure]
  cases pagination with
  | single | envelope | pageNumber | countedPages | cursor => exact followed _ _

/-- What is read from a body that a strategy loses has no items and leads nowhere. -/
theorem ofValue_of_loses {body : Json.Value} (lost : pagination.Loses body) :
    ofValue pagination request body = .ok ⟨[], none⟩ := by
  rcases lost with ⟨isEnvelope, notObject⟩
  have nothing := itemsAt_of_not_object notObject
  have noMember (name : String) : body.field? name = none := by
    cases body with
    | object fields => exact absurd rfl (notObject fields)
    | null | bool | number | string | array => rfl
  cases pagination with
  | single | pageNumber => cases isEnvelope
  | envelope itemsKey =>
      rw [ofValue, nothing]
      rfl
  | countedPages pageSize =>
      have noPages : totalPages body = 0 := by rw [totalPages, noMember]
      simp [ofValue, nothing, noPages, bind, Except.bind, pure, Except.pure]
  | cursor cursorParam limit itemsKey next =>
      simp [ofValue, nothing, bind, Except.bind, pure, Except.pure]

end Shapes

section Bodies

variable {body : String}

theorem ofBody_eq_ofValue {value : Json.Value} (parsed : Json.parse? body = some value) :
    ofBody pagination request body = ofValue pagination request value := by
  simp only [ofBody, Json.isBlankText_of_parse? parsed, Bool.false_eq_true, if_false, parsed]

/-- A body that is not blank is read as a page just if it has the shape that the strategy is for and
what is designated in it are objects, which are the items then; or if the strategy loses it. Such a
body is taken for an empty page that no other follows. -/
theorem ofBody_reads_designated_unless_lost (pagination : Pagination) (request : Http.Request)
    {body : String} (notBlank : Text.isBlankText body = false) :
    (∀ items, (∃ next, ofBody pagination request body = .ok ⟨items, next⟩) ↔
      ∃ value, Json.parse? body = some value ∧
        (pagination.HasShape value ∧ pagination.Designates value (items.map Record.toValue) ∨
          pagination.Loses value ∧ items = [])) ∧
      ∀ value, Json.parse? body = some value → pagination.Loses value →
        ofBody pagination request body = .ok ⟨[], none⟩ := by
  constructor
  · intro items
    cases parsed : Json.parse? body with
    | none => simp [ofBody, notBlank, parsed]
    | some value =>
        simp only [ofBody_eq_ofValue parsed, exists_ofValue_eq_ok_iff, readItems_eq_ok_iff,
          Option.some.injEq, exists_eq_left']
  · intro value parsed lost
    rw [ofBody_eq_ofValue parsed, ofValue_of_loses lost]

/-- The answer to a list of ZPA: the first of two pages, with one record. -/
def firstOfTwoPages : String :=
  "\x7b\"list\":[\x7b\"id\":\"10\"\x7d],\"totalPages\":\"2\"\x7d"

/-- A body of ZPA is read as the page that it is. -/
theorem ofBody_reads_first_of_two_pages :
    Text.isBlankText firstOfTwoPages = false ∧
      ∃ next, ofBody .zpa (.read "http://127.0.0.1") firstOfTwoPages =
        .ok ⟨[⟨[("id", .string "10")]⟩], next⟩ := by
  have notBlank : Text.isBlankText firstOfTwoPages = false := by decide
  have parsed : Json.parse? firstOfTwoPages = some (.object
      [("list", .array [.object [("id", .string "10")]]), ("totalPages", .string "2")]) := by
    rfl
  refine ⟨notBlank, ((ofBody_reads_designated_unless_lost .zpa _ notBlank).1 _).mpr ?_⟩
  exact ⟨_, parsed, .inl ⟨⟨_, rfl⟩, .enclosed rfl rfl⟩⟩

/-- A bare array with one record. -/
def oneBareRecord : String := "[\x7b\"id\":1\x7d]"

/-- A bare array of records is read as an empty page wherever an envelope is wanted. -/
theorem ofBody_loses_bare_record :
    Json.parse? oneBareRecord = some (.array [.object [("id", .ofWord 1)]]) ∧
      ∀ pagination ∈ [Pagination.zpa, .zdx, .zidentity, .envelope "results"],
        ¬pagination.HasShape (.array [.object [("id", .ofWord 1)]]) ∧
          ofBody pagination (.read "http://127.0.0.1") oneBareRecord = .ok ⟨[], none⟩ := by
  have parsed : Json.parse? oneBareRecord = some (.array [.object [("id", .ofWord 1)]]) := by
    rfl
  refine ⟨parsed, ?_⟩
  intro pagination member
  have noObject (fields : Json.Fields) :
      Json.Value.array [.object [("id", .ofWord 1)]] ≠ .object fields := nofun
  rw [ofBody_eq_ofValue parsed]
  simp only [List.mem_cons, List.not_mem_nil, or_false] at member
  rcases member with rfl | rfl | rfl | rfl
  all_goals exact ⟨fun ⟨fields, same⟩ => noObject fields same, ofValue_of_loses ⟨rfl, noObject⟩⟩

end Bodies

end Page

end CloudAdmin
