import CloudAdmin.Proofs.Url.Segment

/-!
# One segment below a URL

The text of a URL may be written otherwise than the URL is when it is read. If it is not, and it
ends neither in a slash nor in a query nor in a fragment, it may be extended by hand: behind a slash
and one segment, it is read as the same URL with this segment at the end of its path. The segments
before it stay what they were, since none of them is resolved only because it is no longer the last
one.
-/

namespace CloudAdmin.Url

section Resolving

/-- A segment is added behind what some segments come to, if these do not end in a dot segment. -/
theorem resolveSegments_concat {before front : List (List Char)} {part : List Char}
    (one : IsSegment part) (notEmpty : front ≠ [])
    (open_ : (resolveSegments before front).getLast? ≠ some []) :
    resolveSegments before (front ++ [part]) = resolveSegments before front ++ [part] := by
  induction front generalizing before with
  | nil => exact absurd rfl notEmpty
  | cons segment front ih =>
      cases front with
      | nil =>
          have added : resolveDots? (segment :: before) part true = none :=
            resolveDots?_eq_none_iff.mpr ⟨one.notParent, one.notCurrent⟩
          cases resolved : resolveDots? before segment true with
          | some kept =>
              exfalso
              apply open_
              simp [resolveSegments, resolved, head?_of_resolveDots?_atEnd resolved]
          | none =>
              have stays : resolveDots? before segment false = none :=
                resolveDots?_eq_none_iff.mpr (resolveDots?_eq_none_iff.mp resolved)
              simp [resolveSegments, resolved, stays, added]
      | cons next front =>
          exact ih (by simp) open_

theorem parseSegments_append_slash {front part : List Char} (one : IsSegment part)
    (open_ : (parseSegments true front).getLast? ≠ some []) :
    parseSegments true (front ++ '/' :: part) = parseSegments true front ++ [part] := by
  have some_ : front ≠ [] := by
    rintro rfl
    exact open_ (by decide)
  have encoded : percentEncode inPathSet part = part :=
    percentEncode_eq_self fun c member => (one.written c member).1
  rw [parseSegments, belowRoot_append some_, splitSlashes_append_slash, one.written.splitSlashes,
    one.splitAll, List.map_append, List.map_singleton, encoded]
  apply resolveSegments_concat one
  · simp [splitSlashes, splitAll_ne_nil]
  · exact open_

end Resolving

/-- Whether a text is the address of a collection: a URL of the web, written as it is read, that
ends in its path, and not in a slash. -/
structure IsCollection (text : String) (url : Url) : Prop where
  read : parse text = .ok url
  written : url.text = text
  web : isWebScheme url.scheme = true
  noQuery : url.query = none
  noFragment : url.fragment = none
  open_ : url.path.render.getLast? ≠ some '/'

theorem visible_of_mem_render {parts : List (List Char)} (encoded : AreEncoded parts) {c : Char}
    (member : c ∈ (Path.segments parts).render) : 0x20 < c.toNat := by
  rcases List.mem_flatMap.mp member with ⟨part, inParts, inside⟩
  rcases List.mem_cons.mp inside with rfl | inPart
  · decide
  · exact visible_of_inPathSet (encoded part inParts c inPart)

namespace IsCollection

variable {text : String} {url : Url}

theorem visible (collection : IsCollection text url) (c : Char)
    (last : text.toList.getLast? = some c) : 0x20 < c.toNat := by
  rcases path_of_parse collection.read collection.web with ⟨parts, path, notEmpty, encoded⟩
  have whole : text.toList =
      (url.scheme ++ ':' :: url.renderAuthority) ++ (Path.segments parts).render := by
    rw [← collection.written, Url.text, String.toList_ofList, Url.render, collection.noQuery,
      collection.noFragment, path]
    simp [renderPart]
  have some_ : (Path.segments parts).render.getLast?.isSome = true := by
    rcases List.exists_cons_of_ne_nil notEmpty with ⟨part, others, rfl⟩
    simp [Path.render]
  rw [whole, List.getLast?_append, Option.or_of_isSome some_] at last
  exact visible_of_mem_render encoded (List.mem_of_getLast? last)

theorem getLast?_ne (collection : IsCollection text url) {parts : List (List Char)}
    (path : url.path = .segments parts) : parts.getLast? ≠ some [] := by
  intro last
  rcases List.getLast?_eq_some_iff.mp last with ⟨before, rfl⟩
  apply collection.open_
  simp [path, Path.render]

/-- Behind a slash and one segment, the address of a collection is read as the URL of the collection
with the segment at the end of its path. -/
theorem parse_segment (collection : IsCollection text url) {part : String}
    (one : IsSegment part.toList) :
    ∃ parts, url.path = .segments parts ∧
      parse (text ++ "/" ++ part) =
        .ok { url with path := .segments (parts ++ [part.toList]) } := by
  rcases opens_of_parseChars collection.read collection.web collection.visible with
    ⟨authority, left, opens, assembled⟩
  have noQuery := collection.noQuery
  have noFragment := collection.noFragment
  rw [assembled] at noQuery noFragment
  have inLeft := endsPath_of_assemble noQuery noFragment
  rw [assemble_of_forall inLeft, parsePath_special] at assembled
  have path : url.path = .segments (parseSegments true left) := by
    rw [assembled]
  refine ⟨parseSegments true left, path, ?_⟩
  have visible : ∀ c, part.toList.getLast? = some c → 0x20 < c.toNat :=
    fun c last => visible_of_inPathSet (one.written c (List.mem_of_getLast? last)).1
  have inWhole : ∀ c ∈ left ++ '/' :: part.toList, (!endsPath c) = true := by
    intro c member
    rcases List.mem_append.mp member with inFront | inBack
    · exact inLeft c inFront
    rcases List.mem_cons.mp inBack with rfl | inPart
    · rfl
    · have plain := (one.written c inPart).1
      cases ends : endsPath c with
      | false => rfl
      | true =>
          simp only [endsPath, Bool.or_eq_true, beq_iff_eq] at ends
          rcases ends with rfl | rfl <;> cases plain
  have characters : (text ++ "/" ++ part).toList = text.toList ++ '/' :: part.toList := by
    simp
  rw [parse, characters, opens.parseChars_append_slash collection.web (visible_cons_slash visible),
    one.written.withoutBreaks, assemble_of_forall inWhole, parsePath_special,
    parseSegments_append_slash one (collection.getLast?_ne path)]
  rw [assembled]

end IsCollection

end CloudAdmin.Url
