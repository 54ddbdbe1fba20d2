import CloudAdmin.Proofs.Result
import CloudAdmin.Proofs.Url.Form
import CloudAdmin.Url.Parser

/-!
# Reading URLs of the web

What is read as the path of a URL of the web is a list of segments, none of which holds a character
that has to be encoded in a path. A URL that is put together from a host and a path is read as just
these, if the segments of the path are plain ones: encoded already, without a slash of either kind,
and no dot segments.
-/

namespace CloudAdmin.Url

section Encoding

theorem percentEncode_eq_self {mustEncode : Char → Bool} {text : List Char}
    (plain : ∀ c ∈ text, mustEncode c = false) : percentEncode mustEncode text = text := by
  induction text with
  | nil => rfl
  | cons c rest ih =>
      have first := plain c (List.mem_cons_self ..)
      rw [percentEncode, List.flatMap_cons, first]
      exact congrArg _ (ih fun d member => plain d (List.mem_cons_of_mem _ member))

theorem mem_percentEncode {mustEncode : Char → Bool} {text : List Char} {c : Char}
    (member : c ∈ percentEncode mustEncode text) :
    (mustEncode c = false ∧ c ∈ text) ∨ c ∈ "%0123456789ABCDEF".toList := by
  rcases List.mem_flatMap.mp member with ⟨d, inText, inside⟩
  split at inside
  · rcases List.mem_flatMap.mp inside with ⟨byte, -, inByte⟩
    have isByte := byte.toNat_lt
    simp only [percentByte, List.mem_cons, List.not_mem_nil, or_false] at inByte
    rcases inByte with rfl | rfl | rfl
    · exact .inr (by decide)
    · exact .inr (List.mem_cons_of_mem _ (upperHex_mem (by omega)))
    · exact .inr (List.mem_cons_of_mem _ (upperHex_mem (by omega)))
  · rename_i kept
    rcases List.mem_singleton.mp inside with rfl
    exact .inl ⟨by simpa using kept, inText⟩

theorem inPathSet_of_mem {c : Char} (member : c ∈ "%0123456789ABCDEF".toList) :
    inPathSet c = false := by
  have all : "%0123456789ABCDEF".toList.all (fun c => !inPathSet c) = true := by decide
  simpa using List.all_eq_true.mp all c member

theorem inPathSet_of_mem_percentEncode {text : List Char} {c : Char}
    (member : c ∈ percentEncode inPathSet text) : inPathSet c = false := by
  rcases mem_percentEncode member with ⟨plain, -⟩ | inEncoding
  · exact plain
  · exact inPathSet_of_mem inEncoding

end Encoding

section Segments

/-- Whether all characters of some segments may stand for themselves in a path. -/
def AreEncoded (segments : List (List Char)) : Prop :=
  ∀ segment ∈ segments, ∀ c ∈ segment, inPathSet c = false

theorem AreEncoded.leaveSegment {before : List (List Char)} (encoded : AreEncoded before) :
    AreEncoded (leaveSegment before) := by
  cases before with
  | nil => exact encoded
  | cons last before =>
      rw [Url.leaveSegment]
      split
      · exact encoded
      · exact fun segment member => encoded segment (List.mem_cons_of_mem _ member)

theorem AreEncoded.cons_nil {before : List (List Char)} (encoded : AreEncoded before) :
    AreEncoded ([] :: before) := by
  intro segment member c inside
  rcases List.mem_cons.mp member with rfl | later
  · cases inside
  · exact encoded segment later c inside

theorem AreEncoded.resolveDots? {before kept : List (List Char)} {segment : List Char}
    {atEnd : Bool} (encoded : AreEncoded before)
    (resolved : resolveDots? before segment atEnd = some kept) : AreEncoded kept := by
  unfold Url.resolveDots? at resolved
  simp only at resolved
  split at resolved
  · rcases Option.some.inj resolved with rfl
    split
    · exact encoded.leaveSegment.cons_nil
    · exact encoded.leaveSegment
  split at resolved
  · rcases Option.some.inj resolved with rfl
    split
    · exact encoded.cons_nil
    · exact encoded
  · cases resolved

theorem head?_of_resolveDots?_atEnd {before kept : List (List Char)} {segment : List Char}
    (resolved : resolveDots? before segment true = some kept) : kept.head? = some [] := by
  unfold resolveDots? at resolved
  simp only [if_true] at resolved
  split at resolved
  · rcases Option.some.inj resolved with rfl
    rfl
  split at resolved
  · rcases Option.some.inj resolved with rfl
    rfl
  · cases resolved

theorem resolveDots?_eq_none_iff {before : List (List Char)} {part : List Char} {atEnd : Bool} :
    resolveDots? before part atEnd = none ↔
      isParentSegment part = false ∧ isCurrentSegment part = false := by
  constructor
  · intro stays
    unfold resolveDots? at stays
    simp only at stays
    split at stays
    · cases stays
    split at stays
    · cases stays
    · rename_i notParent notCurrent
      exact ⟨Bool.eq_false_iff.mpr notParent, Bool.eq_false_iff.mpr notCurrent⟩
  · rintro ⟨notParent, notCurrent⟩
    simp [resolveDots?, notParent, notCurrent]

theorem resolveSegments_encoded {before segments : List (List Char)} (notEmpty : segments ≠ [])
    (encoded : AreEncoded before) (encoded' : AreEncoded segments) :
    resolveSegments before segments ≠ [] ∧ AreEncoded (resolveSegments before segments) := by
  induction segments generalizing before with
  | nil => exact absurd rfl notEmpty
  | cons segment rest ih =>
      have next : AreEncoded
          ((Url.resolveDots? before segment rest.isEmpty).getD (segment :: before)) := by
        cases resolved : Url.resolveDots? before segment rest.isEmpty with
        | some kept => exact encoded.resolveDots? resolved
        | none =>
            intro other member
            rcases List.mem_cons.mp member with rfl | earlier
            · exact encoded' _ (List.mem_cons_self ..)
            · exact encoded other earlier
      rw [resolveSegments]
      cases rest with
      | nil =>
          refine ⟨?_, fun other member => next other (List.mem_reverse.mp member)⟩
          rw [resolveSegments, ne_eq, List.reverse_eq_nil_iff]
          cases resolved : Url.resolveDots? before segment true with
          | some kept =>
              have closed := head?_of_resolveDots?_atEnd resolved
              intro none
              simp only [List.isEmpty_nil, resolved, Option.getD_some] at none
              rw [none] at closed
              cases closed
          | none => simp [resolved]
      | cons following rest =>
          exact ih (by simp) next fun other member => encoded' other (List.mem_cons_of_mem _ member)

theorem parseSegments_encoded (special : Bool) (text : List Char) :
    parseSegments special text ≠ [] ∧ AreEncoded (parseSegments special text) := by
  refine resolveSegments_encoded ?_ (fun _ member => absurd member List.not_mem_nil) ?_
  · simp [splitSlashes, splitAll_ne_nil]
  · intro segment member c inside
    rcases List.mem_map.mp member with ⟨raw, -, rfl⟩
    exact inPathSet_of_mem_percentEncode inside

/-- The schemes by which a sandbox is reached. -/
def isWebScheme (scheme : List Char) : Bool :=
  scheme == "http".toList || scheme == "https".toList

theorem isSpecialScheme_of_isWebScheme {scheme : List Char} (web : isWebScheme scheme = true) :
    isSpecialScheme scheme = true ∧ scheme ≠ "file".toList := by
  simp only [isWebScheme, Bool.or_eq_true, beq_iff_eq] at web
  rcases web with rfl | rfl <;> decide

theorem exists_of_parseHierarchical {scheme text : List Char} {url : Url}
    (read : parseHierarchical scheme text = .ok url) :
    ∃ authority rest,
      url = assemble scheme (some authority) (parsePath (isSpecialScheme scheme)) rest := by
  rcases exists_of_bind_eq_ok read with ⟨⟨authority, left⟩, -, assembled⟩
  exact ⟨authority, _, (Except.ok.inj assembled).symm⟩

theorem parseAuthority_of_special {scheme : List Char} (special : isSpecialScheme scheme = true)
    (text : List Char) (followed : Bool) :
    parseAuthority scheme text followed = parseAuthority scheme text true := by
  simp only [parseAuthority, special, Bool.true_or]

theorem parseHierarchical_eq_ok_iff {scheme text : List Char} {url : Url}
    (special : isSpecialScheme scheme = true) :
    parseHierarchical scheme text = .ok url ↔ ∃ authority left,
      parseAuthority scheme (text.takeWhile (!endsAuthority true ·)) true = .ok (authority, left) ∧
      url = assemble scheme (some authority) (parsePath true)
        (left ++ text.dropWhile (!endsAuthority true ·)) := by
  simp only [parseHierarchical, special, parseAuthority_of_special special _ (!_)]
  constructor
  · intro read
    rcases exists_of_bind_eq_ok read with ⟨⟨authority, left⟩, parsed, assembled⟩
    exact ⟨authority, left, parsed, (Except.ok.inj assembled).symm⟩
  · rintro ⟨authority, left, parsed, rfl⟩
    rw [parsed]
    rfl

theorem scheme_of_parseFile {scheme text : List Char} {url : Url}
    (read : parseFile scheme text = .ok url) : url.scheme = scheme := by
  unfold parseFile at read
  split at read
  · split at read
    · simp only at read
      split at read
      · rcases Except.ok.inj read with rfl
        rfl
      · rcases exists_of_bind_eq_ok read with ⟨host, -, assembled⟩
        split at assembled
        · rcases Except.ok.inj assembled with rfl
          rfl
        · rcases Except.ok.inj assembled with rfl
          rfl
    · rcases Except.ok.inj read with rfl
      rfl
  · rcases Except.ok.inj read with rfl
    rfl

theorem scheme_of_parseOther {scheme text : List Char} {url : Url}
    (read : parseOther scheme text = .ok url) : url.scheme = scheme := by
  unfold parseOther at read
  split at read
  · rcases exists_of_parseHierarchical read with ⟨authority, rest, rfl⟩
    rfl
  · rcases Except.ok.inj read with rfl
    rfl
  · rcases Except.ok.inj read with rfl
    rfl

theorem parsePath_special (text : List Char) :
    parsePath true text = .segments (parseSegments true text) := by
  simp [parsePath]

/-- A URL of the web is read from its scheme and from what follows the slashes behind it. -/
theorem parseChars_eq_ok_iff {text : List Char} {url : Url} (web : isWebScheme url.scheme = true) :
    parseChars text = .ok url ↔ ∃ left,
      splitScheme? (withoutBreaks (trim text)) = some (url.scheme, left) ∧
      parseHierarchical url.scheme (left.dropWhile (isSlash true)) = .ok url := by
  rcases isSpecialScheme_of_isWebScheme web with ⟨special, notFile⟩
  constructor
  · intro read
    simp only [parseChars] at read
    split at read
    · cases read
    rename_i scheme left found
    split at read
    · rename_i file
      rw [scheme_of_parseFile read] at notFile
      exact absurd file notFile
    split at read
    · rcases exists_of_parseHierarchical read with ⟨authority, rest, rfl⟩
      exact ⟨left, found, read⟩
    · rename_i other
      rw [scheme_of_parseOther read] at special
      exact absurd special other
  · rintro ⟨left, found, read⟩
    simp only [parseChars, found, notFile, if_false, special, if_true, read]

/-- The path of a URL of the web is a list of encoded segments. -/
theorem path_of_parse {text : String} {url : Url} (read : parse text = .ok url)
    (web : isWebScheme url.scheme = true) :
    ∃ parts, url.path = .segments parts ∧ parts ≠ [] ∧ AreEncoded parts := by
  rcases (parseChars_eq_ok_iff web).mp read with ⟨left, -, parsed⟩
  rcases exists_of_parseHierarchical parsed with ⟨authority, rest, assembled⟩
  refine ⟨parseSegments true (rest.takeWhile (!endsPath ·)), ?_, parseSegments_encoded true _⟩
  rw [assembled, (isSpecialScheme_of_isWebScheme web).1]
  exact parsePath_special _

end Segments

section Building

theorem trim_eq_dropWhile {text : List Char} (last : ∀ c, text.getLast? = some c → 0x20 < c.toNat) :
    trim text = text.dropWhile (·.toNat ≤ 0x20) := by
  have back : (text.dropWhile (·.toNat ≤ 0x20)).reverse.dropWhile (·.toNat ≤ 0x20) =
      (text.dropWhile (·.toNat ≤ 0x20)).reverse := by
    cases tail : (text.dropWhile (·.toNat ≤ 0x20)).reverse with
    | nil => rfl
    | cons c others =>
        have atEnd : (text.dropWhile (·.toNat ≤ 0x20)).getLast? = some c := by
          rw [List.getLast?_eq_head?_reverse, tail]
          rfl
        rcases List.dropWhile_suffix (l := text) (·.toNat ≤ 0x20) with ⟨blanks, whole⟩
        have visible := last c (by rw [← whole, List.getLast?_append, atEnd]; rfl)
        exact List.dropWhile_cons_of_neg (by simpa using visible)
  rw [trim, back, List.reverse_reverse]

theorem trim_eq_self {text : List Char} (first : ∀ c, text.head? = some c → 0x20 < c.toNat)
    (last : ∀ c, text.getLast? = some c → 0x20 < c.toNat) : trim text = text := by
  rw [trim_eq_dropWhile last]
  cases text with
  | nil => rfl
  | cons c rest =>
      have visible := first c rfl
      exact List.dropWhile_cons_of_neg (by simpa using visible)

theorem splitScheme?_web {scheme : List Char} (web : isWebScheme scheme = true)
    (rest : List Char) : splitScheme? (scheme ++ ':' :: rest) = some (scheme, rest) := by
  simp only [isWebScheme, Bool.or_eq_true, beq_iff_eq] at web
  rcases web with rfl | rfl <;> rfl

/-- Whether a text may stand as a host in front of a path. -/
def IsHostText (host : List Char) : Prop :=
  ∀ c ∈ host, endsAuthority true c = false ∧ isIgnored c = false

theorem ne_nil_of_parseAuthority {scheme host left : List Char} {authority : Authority}
    (web : isWebScheme scheme = true)
    (read : parseAuthority scheme host true = .ok (authority, left)) :
    host ≠ [] := by
  rintro rfl
  simp only [isWebScheme, Bool.or_eq_true, beq_iff_eq] at web
  rcases web with rfl | rfl <;> cases read

theorem isIgnored_of_endsAuthority {mark : Char} (isMark : endsAuthority true mark = true) :
    isIgnored mark = false := by
  simp only [endsAuthority, isSlash, Bool.or_eq_true, beq_iff_eq, Bool.and_eq_true] at isMark
  rcases isMark with ((rfl | ⟨-, rfl⟩) | rfl) | rfl <;> decide

theorem withoutBreaks_append (front back : List Char) :
    withoutBreaks (front ++ back) = withoutBreaks front ++ withoutBreaks back :=
  List.filter_append ..

theorem withoutBreaks_cons {c : Char} (kept : isIgnored c = false) (rest : List Char) :
    withoutBreaks (c :: rest) = c :: withoutBreaks rest :=
  List.filter_cons_of_pos (by simp [kept])

/-- A URL is read as the host that it names and whatever follows the host. -/
theorem parseChars_web {scheme host : List Char} {authority : Authority} {mark : Char}
    (web : isWebScheme scheme = true) (isHost : IsHostText host)
    (read : parseAuthority scheme host true = .ok (authority, []))
    (isMark : endsAuthority true mark = true) (rest : List Char)
    (last : ∀ c, (mark :: rest).getLast? = some c → 0x20 < c.toNat) :
    parseChars (scheme ++ ':' :: '/' :: '/' :: (host ++ mark :: rest)) =
      .ok (assemble scheme (some authority) (parsePath true) (mark :: withoutBreaks rest)) := by
  rcases isSpecialScheme_of_isWebScheme web with ⟨special, notFile⟩
  have trimmed : trim (scheme ++ ':' :: '/' :: '/' :: (host ++ mark :: rest)) =
      scheme ++ ':' :: '/' :: '/' :: (host ++ mark :: rest) := by
    apply trim_eq_self
    · intro c head
      simp only [isWebScheme, Bool.or_eq_true, beq_iff_eq] at web
      rcases web with rfl | rfl
      · rcases Option.some.inj head with rfl
        decide
      · rcases Option.some.inj head with rfl
        decide
    · intro c tail
      apply last c
      rw [← tail]
      simp [List.getLast?_append, List.getLast?_cons]
  have unbroken : withoutBreaks (scheme ++ ':' :: '/' :: '/' :: (host ++ mark :: rest)) =
      scheme ++ ':' :: '/' :: '/' :: (host ++ mark :: withoutBreaks rest) := by
    have whole : withoutBreaks host = host :=
      List.filter_eq_self.mpr fun c member => by simp [(isHost c member).2]
    have name : withoutBreaks scheme = scheme := by
      simp only [isWebScheme, Bool.or_eq_true, beq_iff_eq] at web
      rcases web with rfl | rfl <;> rfl
    rw [withoutBreaks_append, name, withoutBreaks_cons (by decide), withoutBreaks_cons (by decide),
      withoutBreaks_cons (by decide), withoutBreaks_append, whole,
      withoutBreaks_cons (isIgnored_of_endsAuthority isMark)]
  have host_ : (host ++ mark :: withoutBreaks rest).dropWhile (isSlash true) =
      host ++ mark :: withoutBreaks rest := by
    rcases List.exists_cons_of_ne_nil (ne_nil_of_parseAuthority web read) with ⟨c, tail, rfl⟩
    have notMark := (isHost c (List.mem_cons_self ..)).1
    simp only [endsAuthority, Bool.or_eq_false_iff] at notMark
    exact List.dropWhile_cons_of_neg (by simp [notMark.1.1])
  have before : ∀ c ∈ host, (!endsAuthority true c) = true :=
    fun c member => by simp [(isHost c member).1]
  simp only [parseChars, trimmed, unbroken, splitScheme?_web web, notFile, special, if_true,
    if_false]
  rw [List.dropWhile_cons_of_pos (by decide), List.dropWhile_cons_of_pos (by decide), host_]
  simp only [parseHierarchical, special, List.takeWhile_append_of_pos before,
    List.dropWhile_append_of_pos before, List.takeWhile_cons, List.dropWhile_cons, isMark,
    Bool.not_true, Bool.false_eq_true, if_false, List.append_nil, List.isEmpty_cons, Bool.not_false,
    read]
  rfl

end Building

section Queries

theorem toNat_of_isAlphanum {c : Char} (alphanumeric : c.isAlphanum = true) :
    ((65 ≤ c.toNat ∧ c.toNat ≤ 90) ∨ (97 ≤ c.toNat ∧ c.toNat ≤ 122)) ∨
      (48 ≤ c.toNat ∧ c.toNat ≤ 57) := by
  change ((decide (c.val ≥ 65 ∧ c.val ≤ 90) || (decide (c.val ≥ 97) && decide (c.val ≤ 122))) ||
    (decide (c.val ≥ 48) && decide (c.val ≤ 57))) = true at alphanumeric
  simp only [Bool.or_eq_true, Bool.and_eq_true, decide_eq_true_eq, ge_iff_le,
    UInt32.le_iff_toNat_le] at alphanumeric
  exact alphanumeric

theorem isFormSafe_bounds {c : Char} (safe : isFormSafe c = true) :
    0x21 ≤ c.toNat ∧ c.toNat ≤ 0x7E := by
  simp only [isFormSafe, Bool.or_eq_true, beq_iff_eq] at safe
  rcases safe with (((alphanumeric | rfl) | rfl) | rfl) | rfl
  · have range := toNat_of_isAlphanum alphanumeric
    omega
  all_goals decide

theorem isFormCharacter_bounds {c : Char} (written : isFormCharacter c = true) :
    0x21 ≤ c.toNat ∧ c.toNat ≤ 0x7E := by
  simp only [isFormCharacter, isFormLetter, Bool.or_eq_true, beq_iff_eq] at written
  rcases written with (((safe | rfl) | rfl) | rfl) | rfl
  · exact isFormSafe_bounds safe
  all_goals decide

theorem ne_of_isFormCharacter {c mark : Char} (written : isFormCharacter c = true)
    (unwritten : isFormCharacter mark = false) : c ≠ mark := by
  rintro rfl
  rw [written] at unwritten
  cases unwritten

/-- A form can be put into a URL as it is. -/
theorem inSpecialQuerySet_of_isFormCharacter {c : Char} (written : isFormCharacter c = true) :
    inSpecialQuerySet c = false := by
  have bounds := isFormCharacter_bounds written
  have control : inControlSet c = false := by
    simp [inControlSet]
    omega
  have other {mark : Char} (unwritten : isFormCharacter mark = false) : c ≠ mark :=
    ne_of_isFormCharacter written unwritten
  simp only [inSpecialQuerySet, inQuerySet, control, Bool.false_or, Bool.or_eq_false_iff,
    beq_eq_false_iff_ne]
  exact ⟨⟨⟨⟨⟨other (by decide), other (by decide)⟩, other (by decide)⟩, other (by decide)⟩,
    other (by decide)⟩, other (by decide)⟩

theorem isIgnored_of_isFormCharacter {c : Char} (written : isFormCharacter c = true) :
    isIgnored c = false := by
  have other {mark : Char} (unwritten : isFormCharacter mark = false) : c ≠ mark :=
    ne_of_isFormCharacter written unwritten
  simp only [isIgnored, Bool.or_eq_false_iff, beq_eq_false_iff_ne]
  exact ⟨⟨other (by decide), other (by decide)⟩, other (by decide)⟩

/-- The query of a URL is what follows the first question mark, if it is a form. -/
theorem query_assemble {scheme path form : List Char} (special : isSpecialScheme scheme = true)
    (authority : Option Authority) (read : List Char → Path) (noQuery : '?' ∉ path)
    (noFragment : '#' ∉ path) (written : ∀ c ∈ form, isFormCharacter c = true) :
    (assemble scheme authority read (path ++ '?' :: form)).query = some form := by
  have inPath : ∀ c ∈ path, (!endsPath c) = true := by
    intro c member
    have notQuery := ne_of_mem_of_not_mem member noQuery
    have notFragment := ne_of_mem_of_not_mem member noFragment
    simp [endsPath, notQuery, notFragment]
  have noHash : ∀ c ∈ '?' :: form, c ≠ '#' := by
    intro c member
    rcases List.mem_cons.mp member with rfl | inForm
    · decide
    · exact ne_of_isFormCharacter (written c inForm) (by decide)
  have kept : percentEncode inSpecialQuerySet form = form :=
    percentEncode_eq_self fun c member => inSpecialQuerySet_of_isFormCharacter (written c member)
  have mark : (!endsPath '?') = false := rfl
  simp only [assemble, List.dropWhile_append_of_pos inPath, List.dropWhile_cons, mark,
    Bool.false_eq_true, if_false, parseTail, splitFirst_of_forall_ne noHash, special, if_true, kept]

/-- The pairs of a link that is put together from a host, a path and a form are those of the
form. -/
theorem queryPairs_of_link {scheme host path : List Char} {authority : Authority}
    (web : isWebScheme scheme = true) (isHost : IsHostText host)
    (read : parseAuthority scheme host true = .ok (authority, []))
    (starts : ∀ c, path.head? = some c → c = '/') (noQuery : '?' ∉ path) (noFragment : '#' ∉ path)
    (pairs : Pairs) :
    ∃ url, parseChars (scheme ++ ':' :: '/' :: '/' ::
        (host ++ (path ++ '?' :: (renderForm pairs).toList))) = .ok url ∧
      url.queryPairs = pairs := by
  have written : ∀ c ∈ (renderForm pairs).toList, isFormCharacter c = true :=
    fun c => isFormCharacter_of_mem_renderForm
  have special := (isSpecialScheme_of_isWebScheme web).1
  have last (front : List Char) (c : Char)
      (found : (front ++ '?' :: (renderForm pairs).toList).getLast? = some c) : 0x20 < c.toNat := by
    rw [List.getLast?_append, Option.or_of_isSome (by simp)] at found
    rcases List.mem_cons.mp (List.mem_of_getLast? found) with rfl | inForm
    · decide
    · exact Nat.lt_of_lt_of_le (by decide) (isFormCharacter_bounds (written c inForm)).1
  have unbroken : withoutBreaks (renderForm pairs).toList = (renderForm pairs).toList :=
    List.filter_eq_self.mpr fun c member => by
      simp [isIgnored_of_isFormCharacter (written c member)]
  cases path with
  | nil =>
      refine ⟨_, parseChars_web web isHost read rfl _ (last []), ?_⟩
      rw [unbroken, queryPairs, ← List.nil_append ('?' :: _),
        query_assemble special _ _ List.not_mem_nil List.not_mem_nil written]
      exact parseForm_renderForm pairs
  | cons c path =>
      rcases starts c rfl with rfl
      have inside {mark : Char} (absent : mark ∉ '/' :: path) :
          mark ∉ '/' :: withoutBreaks path := by
        intro member
        rcases List.mem_cons.mp member with same | later
        · exact absent (same ▸ List.mem_cons_self ..)
        · exact absent (List.mem_cons_of_mem _ (List.mem_filter.mp later).1)
      refine ⟨_, parseChars_web web isHost read rfl
        (path ++ '?' :: (renderForm pairs).toList) (last ('/' :: path)), ?_⟩
      rw [withoutBreaks_append, withoutBreaks_cons (by decide), unbroken, queryPairs,
        ← List.cons_append, query_assemble special _ _ (inside noQuery) (inside noFragment) written]
      exact parseForm_renderForm pairs

/-- The pairs that are added to a URL come behind those that it has. -/
theorem queryPairs_appendPairs (pairs : Pairs) (url : Url) :
    (url.appendPairs pairs).queryPairs = url.queryPairs ++ pairs := by
  unfold appendPairs
  split
  · rename_i empty
    rw [List.isEmpty_iff.mp empty, List.append_nil]
  · have nothing : parseForm [] = [] := rfl
    cases query : url.query with
    | none => simp [queryPairs, query, nothing, parseForm_renderForm]
    | some text =>
        cases text with
        | nil => simp [queryPairs, query, nothing, parseForm_renderForm]
        | cons c rest =>
            simp only [queryPairs, query, Option.getD_some, parseForm_append, parseForm_renderForm]

end Queries

end CloudAdmin.Url
