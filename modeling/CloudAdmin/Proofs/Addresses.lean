import CloudAdmin.Endpoint
import CloudAdmin.Proofs.Url.Below

/-!
# Addresses of records

The record with an id is addressed by the URL of its collection and one segment more. Two things are
said about that. No id leaves the collection: whatever characters it has, the request is sent to the
URL of the collection with just this segment at the end of its path. And an id is addressed as
itself as far as it is kept: a tab or a line break in it is dropped, so that it shares its address
with the id without them, and nothing is kept of one dot or two, so that these are addressed by the
collection with a slash behind it. All other ids can be read back from their addresses.
-/

namespace CloudAdmin

namespace Endpoint

/-- The requests that are about the record with an id. -/
def itemRequests (id : String) (body : Record) (endpoint : Endpoint) : List Http.Request :=
  [endpoint.getRequest id, endpoint.updateRequest id body, endpoint.deleteRequest id]

variable {endpoint : Endpoint} {id other : String} {body : Record} {request : Http.Request}

theorem url_of_mem_itemRequests (member : request ∈ endpoint.itemRequests id body) :
    request.url = endpoint.url ++ "/" ++ Url.segment id ∧ request.query = [] := by
  simp only [itemRequests, List.mem_cons, List.not_mem_nil, or_false] at member
  rcases member with rfl | rfl | rfl <;> exact ⟨rfl, rfl⟩

section Escaping

theorem bounds_of_inSegmentSet {c : Char} (plain : Url.inSegmentSet c = false) :
    0x21 ≤ c.toNat ∧ c.toNat ≤ 0x7E ∧ c ∉ "/\\?#".toList := by
  have inPath : Url.inPathSet c = false := by
    simp only [Url.inSegmentSet, Bool.or_eq_false_iff] at plain
    exact plain.1.1.1
  have visible := Url.visible_of_inPathSet inPath
  refine ⟨visible, ?_, ?_⟩
  · simp only [Url.inPathSet, Url.inFragmentSet, Url.inControlSet, Bool.or_eq_false_iff,
      decide_eq_false_iff_not] at inPath
    omega
  · intro member
    have encoded : "/\\?#".toList.all Url.inSegmentSet = true := by decide
    rw [List.all_eq_true.mp encoded c member] at plain
    cases plain

/-- What an id is written with in a URL. -/
theorem bounds_of_mem_segment {c : Char} (member : c ∈ (Url.segment id).toList) :
    0x21 ≤ c.toNat ∧ c.toNat ≤ 0x7E ∧ c ∉ "/\\?#".toList := by
  rcases Url.isSegmentCharacter_of_mem member with plain | rfl
  · exact bounds_of_inSegmentSet plain
  · decide

theorem isEscaped_segment (id : String) : Url.IsEscaped (Url.segment id).toList := by
  rw [Url.toList_segment]
  exact Url.isEscaped_percentEncode (by decide) _

/-- No id leaves its collection. It is written in visible ASCII characters without marks and with
whole escapes, and a request about its record goes to the URL of the collection with what is written
of the id as one more segment. -/
theorem items_stay_below {url : Url} (collection : Url.IsCollection endpoint.url url) (id : String)
    (body : Record) :
    (∀ c ∈ (Url.segment id).toList, 0x21 ≤ c.toNat ∧ c.toNat ≤ 0x7E ∧ c ∉ "/\\?#".toList) ∧
      Url.IsEscaped (Url.segment id).toList ∧
      ∀ request ∈ endpoint.itemRequests id body, ∃ full, request.fullUrl = .ok full ∧
        full.scheme = url.scheme ∧ full.authority = url.authority ∧
        full.path.render = url.path.render ++ '/' :: (Url.segment id).toList ∧
        full.query = none ∧ full.fragment = none := by
  refine ⟨fun c => bounds_of_mem_segment, isEscaped_segment id, ?_⟩
  intro request member
  rcases url_of_mem_itemRequests member with ⟨address, noQuery⟩
  rcases collection.parse_segment (Url.isSegment_segment id) with ⟨parts, path, read⟩
  refine ⟨{ url with path := .segments (parts ++ [(Url.segment id).toList]) }, ?_, rfl, rfl, ?_,
    collection.noQuery, collection.noFragment⟩
  · rw [Http.Request.fullUrl, address, read, noQuery]
    rfl
  · simp [path, Url.Path.render]

/-- The collection of labels on this machine. -/
def localLabels : Endpoint :=
  ⟨"http://127.0.0.1:3000/zia/api/v1/labels", .single⟩

theorem isCollection_localLabels : Url.IsCollection localLabels.url
    ⟨"http".toList, some ⟨[], .ipv4 0x7F000001, some 3000⟩,
      .segments ["zia".toList, "api".toList, "v1".toList, "labels".toList], none, none⟩ where
  read := eq_ok_of_toOption (by decide +kernel)
  written := by decide +kernel
  web := by decide
  noQuery := rfl
  noFragment := rfl
  open_ := by decide

/-- An id that is full of what means something in a URL. -/
theorem items_stay_below_localLabels : Url.IsCollection localLabels.url
    ⟨"http".toList, some ⟨[], .ipv4 0x7F000001, some 3000⟩,
      .segments ["zia".toList, "api".toList, "v1".toList, "labels".toList], none, none⟩ ∧
    ∃ full, (localLabels.deleteRequest "../%2e\t?#é").fullUrl = .ok full ∧
      full.path.render = "/zia/api/v1/labels/..%2F%252e%3F%23%C3%A9".toList ∧
      full.query = none ∧ full.fragment = none := by
  refine ⟨isCollection_localLabels, ?_⟩
  rcases items_stay_below isCollection_localLabels "../%2e\t?#é" .empty with ⟨-, -, requests⟩
  rcases requests _ (List.mem_of_getLast? rfl) with ⟨full, read, -, -, path, noQuery, noFragment⟩
  refine ⟨full, read, ?_, noQuery, noFragment⟩
  rw [path]
  decide +kernel

end Escaping

section Identity

/-- Whether an address is strictly below a collection: behind a slash and one segment that is not
empty. -/
def IsStrictlyBelow (collection address : String) : Prop :=
  ∃ part, part ≠ "" ∧ '/' ∉ part.toList ∧ address = collection ++ "/" ++ part

theorem isStrictlyBelow_segment_iff {collection : String} :
    IsStrictlyBelow collection (collection ++ "/" ++ Url.segment id) ↔ Url.keptOf id ≠ [] := by
  rw [ne_eq, ← Url.segment_eq_empty_iff]
  constructor
  · rintro ⟨part, notEmpty, -, same⟩ empty
    rw [String.append_right_inj] at same
    exact notEmpty (same.symm.trans empty)
  · intro notEmpty
    exact ⟨Url.segment id, notEmpty, Url.slash_not_mem_segment id, rfl⟩

/-- An id is addressed as what is kept of it. That can be read back from its segment; it is the id
itself unless there is a tab or a line break in it or it is one dot or two; and requests about the
records of two ids go to the same address just if the same is kept of the ids, and to no record if
nothing is. -/
theorem items_are_kept_apart (endpoint : Endpoint) (id other : String) :
    Text.Utf8.decode? (Url.percentDecode (Url.segment id).toList) = some (Url.keptOf id) ∧
      (Url.keptOf id = id.toList ↔
        (∀ c ∈ id.toList, Url.isIgnored c = false) ∧ Url.isDotSegment id.toList = false) ∧
      (Url.segment id = "" ↔ Url.withoutBreaks id.toList = [] ∨
        Url.isDotSegment (Url.withoutBreaks id.toList) = true) ∧
      ∀ body, ∀ request ∈ endpoint.itemRequests id body,
        (IsStrictlyBelow endpoint.url request.url ↔ Url.segment id ≠ "") ∧
          ∀ body', ∀ request' ∈ endpoint.itemRequests other body',
            request.url = request'.url ↔ Url.keptOf id = Url.keptOf other := by
  refine ⟨Url.decode?_segment id, Url.keptOf_eq_toList_iff,
    Url.segment_eq_empty_iff.trans Url.keptOf_eq_nil_iff, ?_⟩
  intro body request member
  rw [(url_of_mem_itemRequests member).1]
  constructor
  · rw [isStrictlyBelow_segment_iff, ne_eq, ne_eq, Url.segment_eq_empty_iff]
  · intro body' request' member'
    rw [(url_of_mem_itemRequests member').1, String.append_right_inj, Url.segment_inj_iff]

/-- An id with a slash in it is addressed below the collection, and not as the id that looks like it
once it is written. -/
theorem items_are_kept_apart_of_slash :
    localLabels.deleteRequest "a/b" ∈ localLabels.itemRequests "a/b" .empty ∧
      localLabels.getRequest "a%2Fb" ∈ localLabels.itemRequests "a%2Fb" .empty ∧
      IsStrictlyBelow localLabels.url (localLabels.deleteRequest "a/b").url ∧
      (localLabels.deleteRequest "a/b").url ≠ (localLabels.getRequest "a%2Fb").url := by
  have removed : localLabels.deleteRequest "a/b" ∈ localLabels.itemRequests "a/b" .empty :=
    List.mem_of_getLast? rfl
  have asked : localLabels.getRequest "a%2Fb" ∈ localLabels.itemRequests "a%2Fb" .empty :=
    List.mem_cons_self ..
  rcases items_are_kept_apart localLabels "a/b" "a%2Fb" with ⟨-, -, empty, requests⟩
  rcases requests .empty _ removed with ⟨below, apart⟩
  refine ⟨removed, asked, below.mpr ?_, ?_⟩
  · rw [ne_eq, empty]
    decide
  · rw [ne_eq, apart .empty _ asked]
    decide

/-- Removing the record with a tab in its id removes the record without, and removing the one that
is called by a dot goes to the collection. -/
theorem deleteRequest_of_spoiled_ids :
    localLabels.deleteRequest "a\tb" = localLabels.deleteRequest "ab" ∧
      (localLabels.deleteRequest ".").url = localLabels.url ++ "/" := by
  decide +kernel

end Identity

end Endpoint

end CloudAdmin
