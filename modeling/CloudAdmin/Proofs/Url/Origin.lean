import CloudAdmin.Proofs.Url.Parsing
import Mathlib.Data.List.TakeWhile

/-!
# Paths below an origin

The URLs that a client asks for are put together from the address of a server and a path. Main
statement: if the address alone is that of a server's root, and the path is plain, then the URL is
read as the server and just this path, written as paths are. A path is plain if nothing in it is
resolved and nothing in it begins a query or a fragment.
-/

namespace CloudAdmin.Url

section Paths

/-- Whether a segment is kept as it is. -/
def IsKept (segment : List Char) : Prop :=
  isParentSegment (percentEncode inPathSet segment) = false ∧
    isCurrentSegment (percentEncode inPathSet segment) = false

/-- Whether a text may stand in a path without changing what is around it. -/
structure IsPlainPath (text : List Char) : Prop where
  noQuery : '?' ∉ text
  noFragment : '#' ∉ text
  kept : ∀ segment ∈ splitSlashes true (withoutBreaks text), IsKept segment

/-- A character as it is written in a path. -/
def writtenCharacter (c : Char) : List Char :=
  if isSlash true c then ['/'] else percentEncode inPathSet [c]

/-- A path as it is written in a URL. -/
def writtenPath (text : List Char) : List Char :=
  (withoutBreaks text).flatMap writtenCharacter

theorem withoutBreaks_append_slash (front back : List Char) :
    withoutBreaks (front ++ '/' :: back) = withoutBreaks front ++ '/' :: withoutBreaks back := by
  rw [withoutBreaks_append, withoutBreaks_cons (by decide)]

theorem splitSlashes_append_slash (front back : List Char) :
    splitSlashes true (front ++ '/' :: back) =
      splitSlashes true front ++ splitSlashes true back := by
  have slash : isSlash true '/' = true := rfl
  simp only [splitSlashes, List.map_append, List.map_cons, slash, if_true,
    splitAll_append_separator]

theorem isKept_nil : IsKept [] :=
  ⟨by decide, by decide⟩

theorem isPlainPath_append_slash {front back : List Char} :
    IsPlainPath (front ++ '/' :: back) ↔ IsPlainPath front ∧ IsPlainPath back := by
  constructor
  · rintro ⟨noQuery, noFragment, kept⟩
    simp only [List.mem_append, List.mem_cons, not_or] at noQuery noFragment
    simp only [withoutBreaks_append_slash, splitSlashes_append_slash, List.mem_append] at kept
    exact ⟨⟨noQuery.1, noFragment.1, fun segment member => kept segment (.inl member)⟩,
      ⟨noQuery.2.2, noFragment.2.2, fun segment member => kept segment (.inr member)⟩⟩
  · rintro ⟨first, second⟩
    refine ⟨?_, ?_, ?_⟩
    · simpa using ⟨first.noQuery, second.noQuery⟩
    · simpa using ⟨first.noFragment, second.noFragment⟩
    · intro segment member
      rw [withoutBreaks_append_slash, splitSlashes_append_slash] at member
      rcases List.mem_append.mp member with inFront | inBack
      · exact first.kept segment inFront
      · exact second.kept segment inBack

theorem isPlainPath_cons_slash {text : List Char} :
    IsPlainPath ('/' :: text) ↔ IsPlainPath text := by
  have empty : IsPlainPath [] := by
    refine ⟨List.not_mem_nil, List.not_mem_nil, fun segment member => ?_⟩
    rcases List.mem_singleton.mp member with rfl
    exact isKept_nil
  rw [← List.nil_append ('/' :: text), isPlainPath_append_slash]
  exact and_iff_right empty

theorem IsPlainPath.dropTrailing {text : String} (plain : IsPlainPath text.toList) :
    IsPlainPath (Text.dropTrailing '/' text).toList := by
  have shorter (reversed : List Char) (plain : IsPlainPath reversed.reverse) :
      IsPlainPath (reversed.dropWhile (· == '/')).reverse := by
    induction reversed with
    | nil => exact plain
    | cons c rest ih =>
        by_cases slash : c = '/'
        · subst slash
          rw [List.reverse_cons] at plain
          exact ih (isPlainPath_append_slash.mp plain).1
        · rwa [List.dropWhile_cons_of_neg (by simpa using slash)]
  rw [Text.dropTrailing, String.toList_ofList]
  exact shorter text.toList.reverse (by rwa [List.reverse_reverse])

theorem writtenPath_append (front back : List Char) :
    writtenPath (front ++ back) = writtenPath front ++ writtenPath back := by
  rw [writtenPath, withoutBreaks_append, List.flatMap_append]
  rfl

theorem writtenPath_append_slash (front back : List Char) :
    writtenPath (front ++ '/' :: back) = writtenPath front ++ '/' :: writtenPath back := by
  rw [writtenPath, withoutBreaks_append_slash, List.flatMap_append, List.flatMap_cons]
  rfl

theorem writtenPath_cons_slash (text : List Char) :
    writtenPath ('/' :: text) = '/' :: writtenPath text :=
  writtenPath_append_slash [] text

theorem flatMap_splitAll (write : Char → List Char) (text : List Char) :
    (splitAll '/' text).flatMap (fun segment => '/' :: segment.flatMap write) =
      '/' :: text.flatMap fun c => if c = '/' then ['/'] else write c := by
  induction text with
  | nil => rfl
  | cons c rest ih =>
      by_cases same : c = '/'
      · subst same
        rw [splitAll_cons_separator, List.flatMap_cons, ih]
        simp
      · have notEmpty := splitAll_ne_nil '/' rest
        cases pieces : splitAll '/' rest with
        | nil => exact absurd pieces notEmpty
        | cons piece pieces' =>
            rw [pieces, List.flatMap_cons, List.cons_append, List.cons.injEq] at ih
            simp only [splitAll, pieces, same, if_false, List.flatMap_cons, List.cons_append,
              List.append_assoc, ih.2]

theorem render_splitSlashes (text : List Char) :
    (Path.segments
        ((splitSlashes true (withoutBreaks text)).map (percentEncode inPathSet))).render =
      '/' :: writtenPath text := by
  have flat := flatMap_splitAll
    (fun c => if inPathSet c then (String.utf8EncodeChar c).flatMap percentByte else [c])
    ((withoutBreaks text).map fun c => if isSlash true c then '/' else c)
  rw [Path.render, splitSlashes, List.flatMap_map]
  refine flat.trans ?_
  rw [List.flatMap_map, writtenPath]
  congr 2
  funext c
  by_cases slash : isSlash true c = true
  · simp [writtenCharacter, slash]
  · have different : c ≠ '/' := fun same => slash (same ▸ rfl)
    simp [writtenCharacter, slash, different, percentEncode]

end Paths

section Resolving

theorem resolveSegments_of_kept {before segments : List (List Char)}
    (kept : ∀ segment ∈ segments,
      isParentSegment segment = false ∧ isCurrentSegment segment = false) :
    resolveSegments before segments = before.reverse ++ segments := by
  induction segments generalizing before with
  | nil => simp [resolveSegments]
  | cons segment rest ih =>
      have stays : resolveDots? before segment rest.isEmpty = none :=
        resolveDots?_eq_none_iff.mpr (kept segment (List.mem_cons_self ..))
      rw [resolveSegments, stays, Option.getD_none,
        ih fun other member => kept other (List.mem_cons_of_mem _ member)]
      simp

/-- What the first segments come to does not depend on those after them. -/
theorem exists_resolveSegments_append (before front : List (List Char)) :
    ∃ left, ∀ back, back ≠ [] →
      resolveSegments before (front ++ back) = resolveSegments left back := by
  induction front generalizing before with
  | nil => exact ⟨before, fun _ _ => rfl⟩
  | cons segment front ih =>
      rcases ih ((resolveDots? before segment false).getD (segment :: before)) with ⟨left, same⟩
      refine ⟨left, fun back notEmpty => ?_⟩
      have more : (front ++ back).isEmpty = false := by simp [notEmpty]
      rw [List.cons_append, resolveSegments, more, same back notEmpty]

theorem belowRoot_append {front : List Char} (some_ : front ≠ []) (back : List Char) :
    belowRoot true (front ++ back) = belowRoot true front ++ back := by
  cases front with
  | nil => exact absurd rfl some_
  | cons first front =>
      rw [List.cons_append, belowRoot, belowRoot]
      split <;> rfl

/-- If a text ends in the root, so that nothing is left of its segments, what follows the root is
all that is left. -/
theorem parseSegments_below {front : List Char} (root : parseSegments true (front ++ ['/']) = [[]])
    {text : List Char} (kept : ∀ segment ∈ splitSlashes true text, IsKept segment) :
    parseSegments true (front ++ '/' :: text) =
      (splitSlashes true text).map (percentEncode inPathSet) := by
  obtain ⟨segments, cut⟩ : ∃ segments : List (List Char), ∀ rest,
      (splitSlashes true (belowRoot true (front ++ '/' :: rest))).map (percentEncode inPathSet) =
        segments ++ (splitSlashes true rest).map (percentEncode inPathSet) := by
    cases front with
    | nil => exact ⟨[], fun rest => rfl⟩
    | cons first front =>
        refine ⟨(splitSlashes true (belowRoot true (first :: front))).map (percentEncode inPathSet),
          fun rest => ?_⟩
        rw [← List.map_append, ← splitSlashes_append_slash, belowRoot_append (by simp)]
  rcases exists_resolveSegments_append [] segments with ⟨left, resolved⟩
  have empty : left = [] := by
    rw [parseSegments, cut, resolved _ (by decide)] at root
    simpa [resolveSegments, splitSlashes, splitAll, percentEncode, resolveDots?, isParentSegment,
      isCurrentSegment] using root
  rw [parseSegments, cut, resolved _ (by simp [splitSlashes, splitAll_ne_nil]), empty,
    resolveSegments_of_kept, List.reverse_nil, List.nil_append]
  intro segment member
  rcases List.mem_map.mp member with ⟨raw, inText, rfl⟩
  exact kept raw inText

end Resolving

section Openings

variable {root : List Char}

/-- Whether a text may stand in front of a colon as a scheme. -/
def isSchemeName (name : List Char) : Bool :=
  name.head?.any Char.isAlpha && name.all isSchemeCharacter

theorem splitScheme?_eq_some_iff {text scheme rest : List Char} :
    splitScheme? text = some (scheme, rest) ↔
      ∃ name, isSchemeName name = true ∧ name.map Char.toLower = scheme ∧
        text = name ++ ':' :: rest := by
  constructor
  · intro found
    cases text with
    | nil => cases found
    | cons first text =>
        rw [splitScheme?] at found
        split at found
        · rename_i name after cut
          split at found
          · rename_i valid
            simp only [Option.some.injEq, Prod.mk.injEq] at found
            rcases found with ⟨lowered, rfl⟩
            have whole := eq_append_of_splitFirst_eq cut
            rw [Bool.and_eq_true] at valid
            refine ⟨name, ?_, lowered, whole⟩
            cases name with
            | nil =>
                rcases List.cons.inj whole with ⟨rfl, -⟩
                exact absurd valid.1 (by decide)
            | cons first' name =>
                rcases List.cons.inj whole with ⟨rfl, -⟩
                rw [isSchemeName, Bool.and_eq_true]
                exact valid
          · cases found
        · cases found
  · rintro ⟨name, valid, rfl, rfl⟩
    rw [isSchemeName, Bool.and_eq_true] at valid
    have absent : ∀ c ∈ name, c ≠ ':' := by
      rintro c member rfl
      exact absurd (List.all_eq_true.mp valid.2 ':' member) (by decide)
    cases name with
    | nil => cases valid.1
    | cons first name =>
        have cut := splitFirst_append absent rest
        have starts : first.isAlpha = true := valid.1
        rw [List.cons_append] at cut ⊢
        simp [splitScheme?, cut, starts, valid.2]

theorem splitScheme?_append {text scheme after : List Char}
    (found : splitScheme? text = some (scheme, after)) (rest : List Char) :
    splitScheme? (text ++ rest) = some (scheme, after ++ rest) := by
  rcases splitScheme?_eq_some_iff.mp found with ⟨name, valid, lowered, rfl⟩
  apply splitScheme?_eq_some_iff.mpr
  exact ⟨name, valid, lowered, List.append_assoc ..⟩

theorem exists_of_splitScheme?_append_slash {scheme after : List Char}
    (found : splitScheme? (root ++ ['/']) = some (scheme, after)) :
    ∃ left, after = left ++ ['/'] ∧ splitScheme? root = some (scheme, left) := by
  rcases splitScheme?_eq_some_iff.mp found with ⟨name, valid, lowered, whole⟩
  rcases List.eq_nil_or_concat after with rfl | ⟨left, last, rfl⟩
  · cases (List.append_inj' whole rfl).2
  · rw [List.concat_eq_append, ← List.cons_append, ← List.append_assoc] at whole
    rcases List.append_inj' whole rfl with ⟨rfl, same⟩
    rcases List.cons.inj same with ⟨rfl, -⟩
    refine ⟨left, List.concat_eq_append, ?_⟩
    exact splitScheme?_eq_some_iff.mpr ⟨name, valid, lowered, rfl⟩

theorem takeWhile_append_slash {test : Char → Bool} (stops : test '/' = false)
    (root rest : List Char) : (root ++ '/' :: rest).takeWhile test = root.takeWhile test := by
  rw [List.takeWhile_append]
  split
  · rename_i whole
    have all : root.takeWhile test = root := (List.takeWhile_prefix _).eq_of_length whole
    rw [all, List.takeWhile_cons_of_neg (by simp [stops]), List.append_nil]
  · rfl

theorem dropWhile_append_slash {test : Char → Bool} (stops : test '/' = false)
    (root rest : List Char) :
    (root ++ '/' :: rest).dropWhile test = root.dropWhile test ++ '/' :: rest := by
  rw [List.dropWhile_append]
  split
  · rename_i none
    rw [List.isEmpty_iff.mp none, List.dropWhile_cons_of_neg (by simp [stops])]
    rfl
  · rfl

theorem dropWhile_append_of_ne_nil {test : Char → Bool} (some_ : root.dropWhile test ≠ [])
    (rest : List Char) : (root ++ rest).dropWhile test = root.dropWhile test ++ rest := by
  rw [List.dropWhile_append]
  split
  · rename_i none
    exact absurd (List.isEmpty_iff.mp none) some_
  · rfl

theorem trim_append_slash (root : List Char) {rest : List Char}
    (last : ∀ c, ('/' :: rest).getLast? = some c → 0x20 < c.toNat) :
    trim (root ++ '/' :: rest) = root.dropWhile (·.toNat ≤ 0x20) ++ '/' :: rest := by
  rw [trim_eq_dropWhile, dropWhile_append_slash (by decide)]
  intro c found
  apply last c
  rw [← found, List.getLast?_append, Option.or_of_isSome (by simp)]

theorem visible_slash (c : Char) (same : ['/'].getLast? = some c) : 0x20 < c.toNat := by
  rcases Option.some.inj same with rfl
  decide

theorem visible_cons_slash {text : List Char} (last : ∀ c, text.getLast? = some c → 0x20 < c.toNat)
    (c : Char) (found : ('/' :: text).getLast? = some c) : 0x20 < c.toNat := by
  cases text with
  | nil => exact visible_slash c found
  | cons first rest => exact last c (by rwa [List.getLast?_cons_cons] at found)

/-- Nothing but slashes is no URL with an authority. -/
theorem ne_nil_of_parseHierarchical {scheme text : List Char} (web : isWebScheme scheme = true)
    {url : Url} (read : parseHierarchical scheme text = .ok url) : text ≠ [] := by
  rintro rfl
  simp only [isWebScheme, Bool.or_eq_true, beq_iff_eq] at web
  rcases web with rfl | rfl <;> cases read

/-- What a text opens a URL of the web with, if a path follows it: a scheme, an authority and the
text that the path goes on from. -/
structure Opens (root scheme : List Char) (authority : Authority) (left : List Char) : Prop where
  cut : ∃ after before, splitScheme? (withoutBreaks (root.dropWhile (·.toNat ≤ 0x20))) =
      some (scheme, after) ∧ after.dropWhile (isSlash true) ≠ [] ∧
    parseAuthority scheme
      ((after.dropWhile (isSlash true)).takeWhile (!endsAuthority true ·)) true =
        .ok (authority, before) ∧
    left = before ++ (after.dropWhile (isSlash true)).dropWhile (!endsAuthority true ·)

/-- What is read in front of a path does not depend on the path. -/
theorem Opens.parseChars_append_slash {scheme left rest : List Char} {authority : Authority}
    (opens : Opens root scheme authority left) (web : isWebScheme scheme = true)
    (last : ∀ c, ('/' :: rest).getLast? = some c → 0x20 < c.toNat) :
    parseChars (root ++ '/' :: rest) = .ok (assemble scheme (some authority) (parsePath true)
      (left ++ '/' :: withoutBreaks rest)) := by
  rcases opens.cut with ⟨after, before, found, some_, read, rfl⟩
  refine (parseChars_eq_ok_iff web).mpr ⟨after ++ '/' :: withoutBreaks rest, ?_, ?_⟩
  · rw [trim_append_slash root last, withoutBreaks_append_slash]
    exact splitScheme?_append found _
  · refine (parseHierarchical_eq_ok_iff (isSpecialScheme_of_isWebScheme web).1).mpr
      ⟨authority, before, ?_, ?_⟩
    · rw [dropWhile_append_of_ne_nil some_, takeWhile_append_slash (by decide)]
      exact read
    · rw [dropWhile_append_of_ne_nil some_, dropWhile_append_slash (by decide), List.append_assoc]

/-- A text that is read as a URL opens the URLs below it. -/
theorem opens_of_parseChars {url : Url} (read : parseChars root = .ok url)
    (web : isWebScheme url.scheme = true)
    (last : ∀ c, root.getLast? = some c → 0x20 < c.toNat) :
    ∃ authority left, Opens root url.scheme authority left ∧
      url = assemble url.scheme (some authority) (parsePath true) left := by
  rcases (parseChars_eq_ok_iff web).mp read with ⟨after, found, parsed⟩
  rw [trim_eq_dropWhile last] at found
  have some_ := ne_nil_of_parseHierarchical web parsed
  rcases (parseHierarchical_eq_ok_iff (isSpecialScheme_of_isWebScheme web).1).mp parsed with
    ⟨authority, before, front, assembled⟩
  exact ⟨authority, _, ⟨after, before, found, some_, front, rfl⟩, assembled⟩

/-- A text that is read as a URL with a slash behind it opens the URLs below it. -/
theorem opens_of_parseChars_append_slash {url : Url}
    (read : parseChars (root ++ ['/']) = .ok url) (web : isWebScheme url.scheme = true) :
    ∃ authority left, Opens root url.scheme authority left := by
  rcases (parseChars_eq_ok_iff web).mp read with ⟨after, found, parsed⟩
  rw [trim_append_slash root visible_slash, withoutBreaks_append_slash] at found
  rcases exists_of_splitScheme?_append_slash found with ⟨after, rfl, opened⟩
  have some_ : after.dropWhile (isSlash true) ≠ [] := by
    intro none
    apply ne_nil_of_parseHierarchical web parsed
    rw [List.dropWhile_append, none]
    rfl
  rw [dropWhile_append_of_ne_nil some_] at parsed
  rcases (parseHierarchical_eq_ok_iff (isSpecialScheme_of_isWebScheme web).1).mp parsed with
    ⟨authority, before, front, -⟩
  rw [takeWhile_append_slash (by decide)] at front
  exact ⟨authority, _, ⟨after, before, opened, some_, front, rfl⟩⟩

end Openings

section Origins

/-- Whether a text is the address of a server, below which paths may be put. -/
def IsOrigin (root : String) : Prop :=
  ∃ url, parse (root ++ "/") = .ok url ∧ isWebScheme url.scheme = true ∧
    url.path = .segments [[]] ∧ url.query = none ∧ url.fragment = none

theorem endsPath_of_assemble {scheme text : List Char} {authority : Option Authority}
    {read : List Char → Path} (noQuery : (assemble scheme authority read text).query = none)
    (noFragment : (assemble scheme authority read text).fragment = none) :
    ∀ c ∈ text, (!endsPath c) = true := by
  cases tail : text.dropWhile (!endsPath ·) with
  | nil => exact List.dropWhile_eq_nil_iff.mp tail
  | cons mark rest =>
      have isMark : endsPath mark = true := by
        have stops := List.head?_dropWhile_not (!endsPath ·) text
        rw [tail] at stops
        simpa using stops
      simp only [assemble, tail, parseTail] at noQuery noFragment
      simp only [endsPath, Bool.or_eq_true, beq_iff_eq] at isMark
      rcases isMark with rfl | rfl
      · simp [splitFirst] at noQuery
      · simp [splitFirst] at noFragment

theorem assemble_of_forall {scheme text : List Char} {authority : Option Authority}
    {read : List Char → Path} (whole : ∀ c ∈ text, (!endsPath c) = true) :
    assemble scheme authority read text = ⟨scheme, authority, read text, none, none⟩ := by
  simp [assemble, List.dropWhile_eq_nil_iff.mpr whole, List.takeWhile_eq_self_iff.mpr whole,
    parseTail, splitFirst]

/-- A plain path below an origin is what is read as the path of the URL. -/
theorem parse_below {root : String} (origin : IsOrigin root) {text : List Char}
    (plain : IsPlainPath text) (last : ∀ c, text.getLast? = some c → 0x20 < c.toNat) :
    ∃ url, parse (root ++ String.ofList ('/' :: text)) = .ok url ∧
      isWebScheme url.scheme = true ∧ url.query = none ∧
        url.path.render = '/' :: writtenPath text := by
  rcases origin with ⟨server, read, web, path, noQuery, noFragment⟩
  rw [parse, String.toList_append] at read
  rcases opens_of_parseChars_append_slash read web with ⟨authority, left, opens⟩
  have here :
      server = assemble server.scheme (some authority) (parsePath true) (left ++ ['/']) := by
    have alone := opens.parseChars_append_slash web visible_slash
    exact Except.ok.inj (read.symm.trans alone)
  rw [here] at path noQuery noFragment
  have inLeft := endsPath_of_assemble noQuery noFragment
  have root_ : parseSegments true (left ++ ['/']) = [[]] := by
    rw [assemble_of_forall inLeft, parsePath_special] at path
    exact Path.segments.inj path
  have whole : ∀ c ∈ left ++ '/' :: withoutBreaks text, (!endsPath c) = true := by
    intro c member
    rcases List.mem_append.mp member with inFront | inBack
    · exact inLeft c (List.mem_append_left _ inFront)
    rcases List.mem_cons.mp inBack with rfl | inText
    · rfl
    · have kept := (List.mem_filter.mp inText).1
      have notQuery := ne_of_mem_of_not_mem kept plain.noQuery
      have notFragment := ne_of_mem_of_not_mem kept plain.noFragment
      simp [endsPath, notQuery, notFragment]
  refine ⟨⟨server.scheme, some authority, parsePath true (left ++ '/' :: withoutBreaks text), none,
    none⟩, ?_, web, rfl, ?_⟩
  · rw [parse, String.toList_append, String.toList_ofList,
      opens.parseChars_append_slash web (visible_cons_slash last), assemble_of_forall whole]
  · simp only [parsePath_special, parseSegments_below root_ plain.kept]
    exact render_splitSlashes text

end Origins

end CloudAdmin.Url
