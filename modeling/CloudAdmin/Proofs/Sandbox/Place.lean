import CloudAdmin.Proofs.Sandbox.Target
import CloudAdmin.Proofs.Url.Segment

/-!
# Paths and the names at their ends

A sandbox goes by the last segment of a path: a numeral is the id of a record, a few names are
answered in a way of their own, and any other name is that of a collection. Main statement: a path
that is put below an origin and ends in a name that is not reserved leads to where a sandbox keeps
the records of a product. The product shows in the path in front of the last segment.
-/

namespace CloudAdmin.Sandbox

section Names

/-- The names at the end of a path that a sandbox answers in a way of its own. -/
def reservedNames : List String :=
  ["authenticatedSession", "ecAdminActivateStatus", "activate", "status", "urlLookup", "graphql",
    "token", "signin", "login", "revoke-tokens", "stats"]

/-- Whether a text is a segment that may stand at the end of the path of a product. -/
structure IsName (name : List Char) : Prop where
  notEmpty : name ≠ []
  noSlash : '/' ∉ name
  written : Url.IsWritten name
  plain : Url.IsPlainPath name
  free : String.ofList name ∉ reservedNames

theorem splitLast_append_slash (front : List Char) {last : List Char} (noSlash : '/' ∉ last) :
    splitLast (String.ofList (front ++ '/' :: last)) =
      (String.ofList front, String.ofList last) := by
  have inLast : ∀ c ∈ last.reverse, (c != '/') = true := by
    intro c member
    simpa using ne_of_mem_of_not_mem (List.mem_reverse.mp member) noSlash
  have cut : (front ++ '/' :: last).reverse = last.reverse ++ '/' :: front.reverse := by simp
  simp only [splitLast, String.toList_ofList, cut, List.takeWhile_append_of_pos inLast,
    List.dropWhile_append_of_pos inLast]
  simp

theorem exists_last_of_mem {text : List Char} (slash : '/' ∈ text) :
    ∃ front last, text = front ++ '/' :: last ∧ '/' ∉ last := by
  rcases List.eq_append_cons_of_mem (List.mem_reverse.mpr slash) with ⟨last, front, same, absent⟩
  refine ⟨front.reverse, last.reverse, ?_, by simpa using absent⟩
  rw [← List.reverse_reverse text, same]
  simp

theorem splitLast_of_endsWith {ending path : String} (slash : '/' ∈ ending.toList)
    (ends : endsWith ending path = true) : (splitLast path).2 = (splitLast ending).2 := by
  rcases List.isPrefixOf_iff_prefix.mp ends with ⟨before, same⟩
  have stops :
      (ending.toList.reverse.takeWhile (· != '/')).length ≠ ending.toList.reverse.length := by
    intro whole
    have all := (List.takeWhile_prefix _).eq_of_length whole
    have differs := List.all_takeWhile (p := (· != '/')) (l := ending.toList.reverse)
    rw [all, List.all_eq_true] at differs
    simpa using differs '/' (List.mem_reverse.mpr slash)
  simp only [splitLast, ← same, List.takeWhile_append, stops, if_false]

/-- A path does not end with one name and with another as well. -/
theorem endsWith_eq_false {ending other path : String} (slash : '/' ∈ ending.toList)
    (ends : endsWith ending path = true) (slash' : '/' ∈ other.toList)
    (differs : (splitLast other).2 ≠ (splitLast ending).2) : endsWith other path = false := by
  apply Bool.eq_false_iff.mpr
  intro ends'
  apply differs
  rw [← splitLast_of_endsWith slash' ends', splitLast_of_endsWith slash ends]

theorem special?_of_free {path : String} (free : (splitLast path).2 ∉ reservedNames)
    (method : String) (body : Option Json.Value) : special? method path body = none := by
  have ordinary {ending : String} (slash : '/' ∈ ending.toList)
      (reserved : (splitLast ending).2 ∈ reservedNames) : endsWith ending path = false :=
    Bool.eq_false_iff.mpr fun ends => free (splitLast_of_endsWith slash ends ▸ reserved)
  simp [special?, ordinary (show '/' ∈ "/authenticatedSession".toList by decide) (by decide),
    ordinary (show '/' ∈ "/ecAdminActivateStatus".toList by decide) (by decide),
    ordinary (show '/' ∈ "/ecAdminActivateStatus/activate".toList by decide) (by decide),
    ordinary (show '/' ∈ "/status/activate".toList by decide) (by decide),
    ordinary (show '/' ∈ "/status".toList by decide) (by decide),
    ordinary (show '/' ∈ "/urlLookup".toList by decide) (by decide),
    ordinary (show '/' ∈ "/graphql".toList by decide) (by decide)]

/-- What a sandbox keeps for itself ends in a reserved name. -/
theorem not_mem_ownPaths {path : String} (free : (splitLast path).2 ∉ reservedNames) :
    path ∉ ownPaths := by
  have reserved : ownPaths.all (fun own => reservedNames.contains (splitLast own).2) = true := by
    decide
  intro own
  have inNames := List.all_eq_true.mp reserved path own
  exact free (by simpa using inNames)

theorem dropTrailing_of_isName (front : List Char) {name : List Char} (isName : IsName name) :
    Text.dropTrailing '/' (String.ofList (front ++ '/' :: name)) =
      String.ofList (front ++ '/' :: name) := by
  have cut : (front ++ '/' :: name).reverse = name.reverse ++ '/' :: front.reverse := by simp
  rw [Text.dropTrailing, String.toList_ofList, cut]
  cases last : name.reverse with
  | nil => exact absurd (List.reverse_eq_nil_iff.mp last) isName.notEmpty
  | cons c before =>
      have inName : c ∈ name := List.mem_reverse.mp (last ▸ List.mem_cons_self ..)
      have different : (c == '/') = false := by
        simpa using ne_of_mem_of_not_mem inName isName.noSlash
      rw [List.cons_append, List.dropWhile_cons_of_neg (by simp [different]), ← List.cons_append,
        ← last, ← cut, List.reverse_reverse]

theorem isName_decimal (id : Nat) : IsName (Text.decimal id).toList where
  notEmpty := by
    intro empty
    exact Text.decimal_ne_empty id (String.toList_eq_nil_iff.mp empty)
  noSlash := by
    rw [← Url.segment_decimal]
    exact Url.slash_not_mem_segment _
  written := by
    rw [← Url.segment_decimal]
    exact Url.isWritten_segment _
  plain := by
    rw [← Url.segment_decimal]
    exact Url.isPlainPath_segment _
  free := by
    have letters : reservedNames.all (fun name => !name.toList.all Char.isDigit) = true := by decide
    rw [String.ofList_toList]
    intro reserved
    have digits : (Text.decimal id).toList.all Char.isDigit = true :=
      List.all_eq_true.mpr fun c => Text.isDigit_of_mem_decimal
    simpa [digits] using List.all_eq_true.mp letters _ reserved

theorem isId_decimal (id : Nat) : isId (Text.decimal id) = true := by
  have digits : (Text.decimal id).toList.all Char.isDigit = true :=
    List.all_eq_true.mpr fun c => Text.isDigit_of_mem_decimal
  have some_ : (Text.decimal id).isEmpty = false := by
    simpa using Text.decimal_ne_empty id
  simp [isId, digits, some_]

end Names

section Styles

theorem occursIn_iff_isInfix (sought text : List Char) :
    Text.occursIn sought text = true ↔ sought <:+: text := by
  induction text with
  | nil => simp [Text.occursIn]
  | cons c rest ih =>
      rw [Text.occursIn, Bool.or_eq_true, ih, List.isPrefixOf_iff_prefix, List.infix_cons_iff]

theorem isInfix_append_slash {sought front last : List Char} (noSlash : '/' ∉ last) :
    sought ++ ['/'] <:+: front ++ '/' :: last ↔ sought ++ ['/'] <:+: front ++ ['/'] := by
  constructor
  · rintro ⟨before, after, same⟩
    rw [← List.append_assoc, List.append_assoc (before ++ sought), List.singleton_append] at same
    rcases List.append_eq_append_iff.mp same with ⟨between, rfl, tail⟩ | ⟨between, inFront, tail⟩
    · cases between with
      | nil => exact ⟨before, [], by simp⟩
      | cons c between =>
          rw [List.cons_append, List.cons.injEq] at tail
          rcases tail with ⟨rfl, rfl⟩
          exact ⟨before, between ++ ['/'], by simp⟩
    · cases between with
      | nil => exact ⟨before, [], by rw [← List.append_assoc, inFront, List.append_nil,
          List.append_nil]⟩
      | cons c between =>
          rw [List.cons_append, List.cons.injEq] at tail
          exact absurd (tail.2 ▸ List.mem_append_right _ (List.mem_cons_self ..)) noSlash
  · rintro ⟨before, after, same⟩
    refine ⟨before, after ++ last, ?_⟩
    rw [← List.append_assoc, same, List.append_assoc]
    rfl

/-- The product that a path belongs to shows in front of the last segment. -/
theorem ofPath_append_slash (front : List Char) {last : List Char} (noSlash : '/' ∉ last) :
    Style.ofPath (String.ofList (front ++ '/' :: last)) =
      Style.ofPath (String.ofList (front ++ ['/'])) := by
  have same {part : String} (sought : List Char) (ends : part.toList = sought ++ ['/']) :
      Text.occursIn part.toList (front ++ '/' :: last) =
        Text.occursIn part.toList (front ++ ['/']) := by
    rw [Bool.eq_iff_iff, occursIn_iff_isInfix, occursIn_iff_isInfix, ends,
      isInfix_append_slash noSlash]
  have management := @same "/mgmtconfig/" "/mgmtconfig".toList rfl
  have users := @same "/userconfig/" "/userconfig".toList rfl
  have identity := @same "/ziam/" "/ziam".toList rfl
  have experience := @same "/zdx/" "/zdx".toList rfl
  have surface := @same "/easm/" "/easm".toList rfl
  simp only [Style.ofPath, String.toList_ofList, management, users, identity, experience, surface]

/-- Whatever a customer manages in ZPA is in the style of ZPA. -/
theorem ofPath_of_isInfix {path : String} (mentions : "/mgmtconfig/".toList <:+: path.toList ∨
    "/userconfig/".toList <:+: path.toList) : Style.ofPath path = .zpa := by
  rw [← occursIn_iff_isInfix, ← occursIn_iff_isInfix, ← Bool.or_eq_true] at mentions
  simp only [Style.ofPath, mentions, if_true]

end Styles

section Leading

/-- A path below an origin that ends in a name leads to what a sandbox keeps under it. -/
theorem leadsTo_below {root : String} (origin : Url.IsOrigin root) {front name : List Char}
    (starts : front.head? = some '/') (plain : Url.IsPlainPath front) (isName : IsName name) :
    LeadsTo (root ++ String.ofList (front ++ '/' :: name))
      (String.ofList (Url.writtenPath front ++ '/' :: name)) := by
  rcases List.head?_eq_some_iff.mp starts with ⟨rest, rfl⟩
  have below : Url.IsPlainPath (rest ++ '/' :: name) :=
    Url.isPlainPath_append_slash.mpr ⟨Url.isPlainPath_cons_slash.mp plain, isName.plain⟩
  have visible : ∀ c, (rest ++ '/' :: name).getLast? = some c → 0x20 < c.toNat := by
    intro c found
    have split : rest ++ '/' :: name = rest ++ ['/'] ++ name := by simp
    have last : name.getLast? = some c := by
      rw [split, List.getLast?_append] at found
      cases last : name.getLast? with
      | none => exact absurd (List.getLast?_eq_none_iff.mp last) isName.notEmpty
      | some other => rwa [last] at found
    exact Url.visible_of_inPathSet (isName.written c (List.mem_of_getLast? last)).1
  rcases Url.parse_below origin below visible with ⟨url, read, web, noQuery, rendered⟩
  have written : url.path.render = Url.writtenPath ('/' :: rest) ++ '/' :: name := by
    rw [rendered, Url.writtenPath_append_slash, isName.written.writtenPath,
      Url.writtenPath_cons_slash, List.cons_append]
  refine ⟨url, read, web, noQuery, ?_, ?_⟩
  · rw [written]
    apply not_mem_ownPaths
    rw [splitLast_append_slash _ isName.noSlash]
    exact isName.free
  · rw [written]
    exact dropTrailing_of_isName _ isName

/-- A path that is written out below an origin leads to itself, if it is no path that a sandbox
keeps for itself and does not end in a slash. -/
theorem leadsTo_written {root : String} (origin : Url.IsOrigin root) (path : String)
    (written : Url.isWrittenPath path.toList = true) (foreign : "/" ++ path ∉ ownPaths)
    (stays : Text.dropTrailing '/' ("/" ++ path) = "/" ++ path) :
    LeadsTo (root ++ ("/" ++ path)) ("/" ++ path) := by
  have chars := Url.isWritten_of_isWrittenPath written
  have visible : ∀ c, path.toList.getLast? = some c → 0x20 < c.toNat :=
    fun c found => Url.visible_of_inPathSet (chars c (List.mem_of_getLast? found)).1
  have whole : String.ofList ('/' :: path.toList) = "/" ++ path := by
    rw [String.ext_iff, String.toList_append, String.toList_ofList]
    rfl
  rcases Url.parse_below origin (Url.isPlainPath_of_isWrittenPath written) visible
    with ⟨url, read, web, noQuery, rendered⟩
  rw [chars.writtenPath] at rendered
  rw [whole] at read
  refine ⟨url, read, web, noQuery, ?_, ?_⟩
  · rw [rendered, whole]
    exact foreign
  · rw [rendered, whole]
    exact stays

end Leading

end CloudAdmin.Sandbox
