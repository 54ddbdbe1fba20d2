import CloudAdmin.Proofs.Sandbox.Storage
import Mathlib.Data.Fintype.Card

/-!
# Excerpts of long lists

A sandbox takes any word for the number of a page, for its size and for an offset. Where in the list
a page starts is a product of such words, and where the next one starts is a sum. Main statement: an
answer shows the part of the list that is asked for, in exact numbers, and says where the next part
starts exactly if there is one, unless the product or the sum does not fit a word and what is left
of it is a place in the list. Then a page far behind the end shows records again, and the last page
sends back to an earlier one.
-/

namespace CloudAdmin.Sandbox

namespace Style

variable (request : Request)

/-- How large the page is that a request asks for. No page is smaller than one record. -/
def pageSize (style : Style) : Nat :=
  max (numberParameter style.sizeName style.usualSize request).toNat 1

theorem pageSize_pos (style : Style) : 0 < style.pageSize request :=
  Nat.lt_of_lt_of_le Nat.zero_lt_one (Nat.le_max_right ..)

/-- How many records are in front of the page that a request asks for. -/
def skipped (style : Style) : Nat :=
  match style with
  | .zia | .zpa => (max (numberParameter "page" 1 request).toNat 1 - 1) * style.pageSize request
  | .zidentity | .zdx => (numberParameter "offset" 0 request).toNat
  | .results => 0

/-- The place in a list that has to be computed for a page: where it starts, or where the next one
does. -/
def reach (style : Style) : Nat :=
  match style with
  | .zia | .zpa => style.skipped request
  | .zidentity | .zdx => style.skipped request + style.pageSize request
  | .results => 0

end Style

/-- A part of a list, and where the next part starts if there is one. -/
structure Excerpt where
  items : List Json.Value
  next : Option Nat

/-- The part of a list that a request asks for, if the place that has to be computed is kept in some
way. -/
def excerpt (keep : Nat → Nat) (style : Style) (request : Request) (values : List Json.Value) :
    Excerpt :=
  let place := keep (style.reach request)
  let size := style.pageSize request
  match style with
  | .zia | .zpa => ⟨(values.drop place).take size, none⟩
  | .zidentity | .zdx =>
      ⟨(values.drop (style.skipped request)).take size,
        if place < values.length then some place else none⟩
  | .results => ⟨values, none⟩

/-- Whether the answer to a request shows an excerpt of a list. The pages are counted exactly, and
where the next part starts is written after the manner of the style. -/
structure Shows (style : Style) (path : String) (request : Request) (total : Nat)
    (answer : Json.Value) (excerpt : Excerpt) : Prop where
  items : style.listed? answer = some excerpt.items
  pages : style = .zpa → ∃ pages, answer.field? "totalPages" = some (.string (Text.decimal pages)) ∧
    ∀ count, pages ≤ count ↔ total ≤ count * style.pageSize request
  offset : style = .zdx → answer.field? "next_offset" =
    some (excerpt.next.elim .null fun next => .string (Text.decimal next))
  link : style = .zidentity → answer.field? "next_link" =
    some (excerpt.next.elim .null fun next => .string (String.join ["http://mock", path, "?offset=",
      Text.decimal next, "&limit=", Text.decimal (style.pageSize request)]))

/-- Whether the place that has to be computed for a page fits no word, and what is kept of it is a
place in the list. -/
def Wraps (style : Style) (request : Request) (total : Nat) : Prop :=
  UInt64.size ≤ style.reach request ∧ style.reach request % UInt64.size < total

section Words

variable {style : Style} {request : Request} {values : List Json.Value}

/-- Places in a list are kept in words. -/
theorem shown_eq_excerpt :
    style.shown request values = (excerpt (· % UInt64.size) style request values).items := by
  have size := toNat_positiveParameter style.sizeName style.usualSize request
  have page := toNat_positiveParameter "page" 1 request
  cases style with
  | zia | zpa =>
      rw [Style.shown, numberedPage_eq_drop (by omega), size, page]
      rfl
  | zidentity | zdx =>
      rw [Style.shown, slice, size]
      rfl
  | results => rfl

theorem next_eq_excerpt (cursored : style = .zidentity ∨ style = .zdx) :
    (nextOffset? (numberParameter "offset" 0 request)
        (positiveParameter "limit" defaultPageSize request) values.length).map UInt64.toNat =
      (excerpt (· % UInt64.size) style request values).next := by
  have kept := map_nextOffset? id (numberParameter "offset" 0 request)
    (positiveParameter "limit" defaultPageSize request) values.length
  rw [toNat_positiveParameter] at kept
  rcases cursored with rfl | rfl
  · exact kept
  · exact kept

/-- An answer shows the excerpt that is counted in words. -/
theorem shows_listAnswer (style : Style) (path : String) (request : Request)
    (values : List Json.Value) :
    Shows style path request values.length (listAnswer style path request values)
      (excerpt (· % UInt64.size) style request values) where
  items := by rw [listed?_listAnswer, shown_eq_excerpt]
  pages := by
    rintro rfl
    refine ⟨_, field?_countedPage_totalPages request values, fun count => ?_⟩
    rw [toNat_positiveParameter]
    exact pages_le_iff (Style.pageSize_pos request .zpa) count
  offset := by
    rintro rfl
    rw [← next_eq_excerpt (.inr rfl), listAnswer, field?_offsetPage_next]
    cases nextOffset? (numberParameter "offset" 0 request)
      (positiveParameter "limit" defaultPageSize request) values.length <;> rfl
  link := by
    rintro rfl
    have size : Style.zidentity.pageSize request =
        (positiveParameter "limit" defaultPageSize request).toNat :=
      (toNat_positiveParameter ..).symm
    rw [← next_eq_excerpt (.inl rfl), listAnswer, field?_linkedPage_next, size]
    dsimp only
    cases nextOffset? (numberParameter "offset" 0 request)
      (positiveParameter "limit" defaultPageSize request) values.length <;> rfl

end Words

section Wrapping

variable {style : Style} {path : String} {request : Request} {values : List Json.Value}
  {answer : Json.Value}

/-- No list is longer than there are words, so a place that fits none is none in the list. -/
theorem excerpt_eq_of_not_wraps (few : values.length ≤ UInt64.size)
    (fits : ¬Wraps style request values.length) :
    excerpt (· % UInt64.size) style request values = excerpt id style request values := by
  by_cases small : style.reach request < UInt64.size
  · simp only [excerpt, Nat.mod_eq_of_lt small, id]
  · have behind : values.length ≤ style.reach request := by omega
    have keptBehind : values.length ≤ style.reach request % UInt64.size := by
      rw [Wraps, not_and, not_lt] at fits
      exact fits (not_lt.mp small)
    cases style with
    | zia | zpa =>
        simp only [excerpt, id, List.drop_eq_nil_of_le behind, List.drop_eq_nil_of_le keptBehind]
    | zidentity | zdx =>
        simp only [excerpt, id, if_neg (not_lt.mpr behind), if_neg (not_lt.mpr keptBehind)]
    | results => rfl

/-- A place that is kept as another one in the list gives the answer away: it shows records where
there are none, or says that there are more. -/
theorem not_shows_of_wraps (few : values.length ≤ UInt64.size)
    (wraps : Wraps style request values.length)
    (kept : Shows style path request values.length answer
      (excerpt (· % UInt64.size) style request values)) :
    ¬Shows style path request values.length answer (excerpt id style request values) := by
  rcases wraps with ⟨large, inside⟩
  intro isExact
  have behind : values.length ≤ style.reach request := by omega
  have shown := kept.items.symm.trans isExact.items
  cases style with
  | zia | zpa =>
      simp only [excerpt, id, List.drop_eq_nil_of_le behind, List.take_nil, Option.some.injEq,
        List.take_eq_nil_iff, List.drop_eq_nil_iff] at shown
      rcases shown with empty | outside
      · exact absurd empty (Nat.ne_of_gt (Style.pageSize_pos ..))
      · exact absurd inside (not_lt.mpr outside)
  | zidentity =>
      have told := (kept.link rfl).symm.trans (isExact.link rfl)
      rw [excerpt, if_pos inside, excerpt, id, if_neg (not_lt.mpr behind)] at told
      cases told
  | zdx =>
      have told := (kept.offset rfl).symm.trans (isExact.offset rfl)
      rw [excerpt, if_pos inside, excerpt, id, if_neg (not_lt.mpr behind)] at told
      cases told
  | results => exact absurd large (by simp [Style.reach])

theorem length_le_of_isAscending {Item : Type} {items : List (UInt64 × Item)}
    (ascending : Assoc.IsAscending items) : items.length ≤ UInt64.size := by
  have distinct : (items.map fun item => item.1.toFin).Nodup := by
    refine List.pairwise_map.mpr (ascending.imp fun {first second} smaller => ?_)
    intro same
    exact UInt64.lt_irrefl _ (UInt64.toFin_inj.mp same ▸ smaller)
  simpa using distinct.length_le_card

end Wrapping

/-- Whatever a collection holds, the answer to a request for its list shows the part of the matching
records that is asked for, in exact numbers, unless the place that is computed for it wraps around:
the start of a page that is counted from one, or that of the next page where there are offsets. The
state stays as it is in any case. -/
theorem list_is_exact_unless_it_wraps (supply : TokenSupply) (request : Request) (state : State)
    (asks : request.AsksForList) (authorized : isAuthorized request state = true)
    (ascending : Assoc.IsAscending (state.items request.place)) :
    let style := Style.ofPath request.place
    let values := searchItems request.place request state
    ∃ answer, handle supply request state = (.json 200 answer, state) ∧
      Shows style request.place request values.length answer
        (excerpt (· % UInt64.size) style request values) ∧
      (Shows style request.place request values.length answer (excerpt id style request values) ↔
        ¬Wraps style request values.length) := by
  intro style values
  have few : values.length ≤ UInt64.size := by
    refine Nat.le_trans (List.length_filter_le ..) ?_
    rw [List.length_map]
    exact length_le_of_isAscending ascending
  have kept := shows_listAnswer style request.place request values
  refine ⟨_, handle_list supply asks authorized, kept, ?_⟩
  constructor
  · intro isExact wraps
    exact not_shows_of_wraps few wraps kept isExact
  · intro fits
    rw [← excerpt_eq_of_not_wraps few fits]
    exact kept

/-- A sandbox that holds three labels. -/
def withThreeLabels : State :=
  (run countingSupply [gatewayEntry,
    labelRequest "POST" "/zia/api/v1/labels" "\x7b\"name\":\"a\"\x7d",
    labelRequest "POST" "/zia/api/v1/labels" "\x7b\"name\":\"b\"\x7d",
    labelRequest "POST" "/zia/api/v1/labels" "\x7b\"name\":\"c\"\x7d"] .empty).2

/-- A request for a page of two labels. -/
def labelsPage (page : String) : Request :=
  { labelRequest "GET" "/zia/api/v1/labels" "" with query := [("page", page), ("pageSize", "2")] }

theorem asksForList_labelsPage (page : String) : (labelsPage page).AsksForList :=
  ⟨asksForList_labels.isForResource, rfl, asksForList_labels.isCollection,
    asksForList_labels.ordinary⟩

theorem isAuthorized_labelsPage (page : String) :
    isAuthorized (labelsPage page) withThreeLabels = true := by
  change isAuthorized (labelRequest "GET" "/zia/api/v1/labels" "") withThreeLabels = true
  decide +kernel

/-- The second page of two labels shows the third one. -/
theorem list_is_exact_of_three_labels :
    let request := labelsPage "2"
    let values := searchItems request.place request withThreeLabels
    ∃ answer, handle countingSupply request withThreeLabels = (.json 200 answer, withThreeLabels) ∧
      (Style.ofPath request.place).listed? answer = some (values.drop 2) := by
  intro request values
  have ascending : Assoc.IsAscending (withThreeLabels.items request.place) :=
    Assoc.isAscending_of_keys [1, 2, 3] (by decide +kernel) (by decide)
  rcases list_is_exact_unless_it_wraps countingSupply request withThreeLabels
    (asksForList_labelsPage "2") (isAuthorized_labelsPage "2") ascending
    with ⟨answer, handled, -, isExact⟩
  have fits : ¬Wraps (Style.ofPath request.place) request values.length := by
    rintro ⟨large, -⟩
    exact absurd large (by decide +kernel)
  have start : Style.zia.reach request = 2 := by decide +kernel
  have size : Style.zia.pageSize request = 2 := by decide +kernel
  have three : values.length = 3 := by decide +kernel
  refine ⟨answer, handled, ?_⟩
  rw [(isExact.mpr fits).items, show Style.ofPath request.place = .zia by decide +kernel]
  have last : (values.drop 2).length ≤ 2 := by
    rw [List.length_drop, three]
    decide
  rw [excerpt, start, size, id, List.take_of_length_le last]

/-- A page that starts at the first place which fits no word shows the first two labels again,
although nothing is there. -/
theorem list_shows_labels_again :
    let request := labelsPage "9223372036854775809"
    let values := searchItems request.place request withThreeLabels
    ∃ answer, handle countingSupply request withThreeLabels = (.json 200 answer, withThreeLabels) ∧
      (Style.ofPath request.place).listed? answer = some (values.take 2) ∧ values.length = 3 ∧
      (excerpt id (Style.ofPath request.place) request values).items = [] ∧
      ¬Shows (Style.ofPath request.place) request.place request values.length answer
        (excerpt id (Style.ofPath request.place) request values) := by
  intro request values
  have style : Style.ofPath request.place = .zia := by decide +kernel
  have start : Style.zia.reach request = UInt64.size := by decide +kernel
  have size : Style.zia.pageSize request = 2 := by decide +kernel
  have three : values.length = 3 := by decide +kernel
  have wraps : Wraps .zia request values.length := by
    rw [Wraps, start, three]
    decide
  have kept := shows_listAnswer .zia request.place request values
  refine ⟨_, handle_list countingSupply (asksForList_labelsPage _) (isAuthorized_labelsPage _), ?_⟩
  rw [style]
  refine ⟨?_, three, ?_, not_shows_of_wraps (by rw [three]; decide) wraps kept⟩
  · rw [kept.items, excerpt, start, size, Nat.mod_self, List.drop_zero]
  · rw [excerpt, start, id, List.drop_eq_nil_of_le (by rw [three]; decide), List.take_nil]

end CloudAdmin.Sandbox
