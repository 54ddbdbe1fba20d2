import CloudAdmin.Text.Blank
import CloudAdmin.Url.Form

/-!
# Cutting texts

Texts are cut at separators and trimmed at their ends. What holds no separator stays in one piece,
and what holds no blank is not trimmed.
-/

namespace CloudAdmin

namespace Text

theorem dropWhile_eq_self {Item : Type} {test : Item → Bool} {items : List Item}
    (none : ∀ item ∈ items, test item = false) : items.dropWhile test = items := by
  cases items with
  | nil => rfl
  | cons item rest => simp [none item (List.mem_cons_self ..)]

theorem trimBlanks_of_forall_not_isBlank {text : List Char}
    (noBlank : ∀ c ∈ text, isBlank c = false) : trimBlanks text = text := by
  have reversed : text.reverse.dropWhile isBlank = text.reverse :=
    dropWhile_eq_self fun c member => noBlank c (List.mem_reverse.mp member)
  simp [trimBlanks, dropWhile_eq_self noBlank, reversed]

theorem dropTrailing_append {c : Char} {front : String}
    (ends : ∀ last, front.toList.getLast? = some last → last ≠ c) (back : String) :
    dropTrailing c (front ++ back) = front ++ dropTrailing c back := by
  have stays : front.toList.reverse.dropWhile (· == c) = front.toList.reverse := by
    cases reversed : front.toList.reverse with
    | nil => rfl
    | cons last before =>
        have different := ends last (by rw [List.getLast?_eq_head?_reverse, reversed]; rfl)
        exact List.dropWhile_cons_of_neg (by simpa using different)
  apply String.toList_inj.mp
  simp only [dropTrailing, String.toList_append, String.toList_ofList, List.reverse_append,
    List.dropWhile_append]
  split
  · rename_i none
    rw [stays, List.isEmpty_iff.mp none, List.reverse_reverse]
    simp
  · simp

theorem getLast?_dropTrailing {c last : Char} {text : String}
    (found : (dropTrailing c text).toList.getLast? = some last) : last ≠ c := by
  rw [dropTrailing, String.toList_ofList, List.getLast?_reverse] at found
  have stops := List.head?_dropWhile_not (· == c) text.toList.reverse
  rw [found] at stops
  simpa using stops

theorem dropTrailing_isPrefix (c : Char) (text : String) :
    (dropTrailing c text).toList <+: text.toList := by
  have suffix := List.dropWhile_suffix (l := text.toList.reverse) (· == c)
  simpa [dropTrailing] using List.reverse_prefix.mpr suffix

end Text

/-- Whether a text does not end in a slash. -/
def HasNoTrailingSlash (text : String) : Prop :=
  ∀ last, text.toList.getLast? = some last → last ≠ '/'

section Slashes

variable {front back : String}

theorem HasNoTrailingSlash.append (first : HasNoTrailingSlash front)
    (second : HasNoTrailingSlash back) : HasNoTrailingSlash (front ++ back) := by
  intro last found
  rw [String.toList_append, List.getLast?_append] at found
  cases ending : back.toList.getLast? with
  | none =>
      rw [ending] at found
      exact first last found
  | some other =>
      rw [ending] at found
      exact Option.some.inj found ▸ second other ending

theorem hasNoTrailingSlash_of_test
    (test : (back.toList.getLast?).all (· != '/') = true) : HasNoTrailingSlash back := by
  intro last found
  rw [found] at test
  simpa using test

theorem hasNoTrailingSlash_dropTrailing (text : String) :
    HasNoTrailingSlash (Text.dropTrailing '/' text) :=
  fun _ found => Text.getLast?_dropTrailing found

end Slashes

namespace Url

variable {separator : Char}

theorem splitAll_ne_nil (separator : Char) (text : List Char) : splitAll separator text ≠ [] := by
  cases text with
  | nil => simp [splitAll]
  | cons c rest =>
      simp only [splitAll]
      split
      · simp
      · split <;> simp

theorem splitAll_of_forall_ne {text : List Char} (none : ∀ c ∈ text, c ≠ separator) :
    splitAll separator text = [text] := by
  induction text with
  | nil => rfl
  | cons c rest ih =>
      have different := none c (List.mem_cons_self ..)
      simp [splitAll, ih fun d member => none d (List.mem_cons_of_mem _ member), different]

theorem splitAll_cons_separator (rest : List Char) :
    splitAll separator (separator :: rest) = [] :: splitAll separator rest := by
  have notEmpty := splitAll_ne_nil separator rest
  cases pieces : splitAll separator rest with
  | nil => exact absurd pieces notEmpty
  | cons piece pieces' => simp [splitAll, pieces]

theorem splitAll_append {piece : List Char} (none : ∀ c ∈ piece, c ≠ separator)
    (rest : List Char) :
    splitAll separator (piece ++ separator :: rest) = piece :: splitAll separator rest := by
  induction piece with
  | nil => exact splitAll_cons_separator rest
  | cons c piece ih =>
      have different := none c (List.mem_cons_self ..)
      simp [splitAll, ih fun d member => none d (List.mem_cons_of_mem _ member), different]

theorem splitAll_append_separator (front back : List Char) :
    splitAll separator (front ++ separator :: back) =
      splitAll separator front ++ splitAll separator back := by
  induction front with
  | nil => exact splitAll_cons_separator back
  | cons c front ih =>
      by_cases same : c = separator
      · subst same
        rw [List.cons_append, splitAll_cons_separator, splitAll_cons_separator, ih,
          List.cons_append]
      · have notEmpty := splitAll_ne_nil separator front
        cases pieces : splitAll separator front with
        | nil => exact absurd pieces notEmpty
        | cons piece rest =>
            rw [pieces] at ih
            simp [splitAll, pieces, ih, same]

/-- Pieces between separators are what a text is cut into. -/
theorem splitAll_intercalate {pieces : List (List Char)} (notEmpty : pieces ≠ [])
    (none : ∀ piece ∈ pieces, separator ∉ piece) :
    splitAll separator (List.intercalate [separator] pieces) = pieces := by
  induction pieces with
  | nil => exact absurd rfl notEmpty
  | cons piece rest ih =>
      have first : ∀ c ∈ piece, c ≠ separator :=
        fun c member same => none piece (List.mem_cons_self ..) (same ▸ member)
      cases rest with
      | nil =>
          rw [List.intercalate_singleton]
          exact splitAll_of_forall_ne first
      | cons next rest =>
          rw [List.intercalate_cons_cons, List.append_assoc, List.singleton_append,
            splitAll_append first,
            ih (by simp) fun later member => none later (List.mem_cons_of_mem _ member)]

theorem mem_of_mem_splitAll {text piece : List Char} {c : Char}
    (member : piece ∈ splitAll separator text) (inside : c ∈ piece) : c ∈ text := by
  induction text generalizing piece with
  | nil =>
      rw [splitAll, List.mem_singleton] at member
      exact member ▸ inside
  | cons first rest ih =>
      by_cases same : first = separator
      · subst same
        rw [splitAll_cons_separator] at member
        rcases List.mem_cons.mp member with rfl | later
        · cases inside
        · exact List.mem_cons_of_mem _ (ih later inside)
      · cases pieces : splitAll separator rest with
        | nil => exact absurd pieces (splitAll_ne_nil separator rest)
        | cons next others =>
            simp only [splitAll, pieces, same, if_false] at member
            rcases List.mem_cons.mp member with rfl | later
            · rcases List.mem_cons.mp inside with rfl | inNext
              · exact List.mem_cons_self ..
              · exact List.mem_cons_of_mem _ (ih (pieces ▸ List.mem_cons_self ..) inNext)
            · exact List.mem_cons_of_mem _ (ih (pieces ▸ List.mem_cons_of_mem _ later) inside)

theorem splitFirst_of_forall_ne {text : List Char} (none_ : ∀ c ∈ text, c ≠ separator) :
    splitFirst separator text = (text, none) := by
  induction text with
  | nil => rfl
  | cons c rest ih =>
      have different := none_ c (List.mem_cons_self ..)
      simp [splitFirst, ih fun d member => none_ d (List.mem_cons_of_mem _ member), different]

theorem splitFirst_append {piece : List Char} (none : ∀ c ∈ piece, c ≠ separator)
    (rest : List Char) :
    splitFirst separator (piece ++ separator :: rest) = (piece, some rest) := by
  induction piece with
  | nil => simp [splitFirst]
  | cons c piece ih =>
      have different := none c (List.mem_cons_self ..)
      simp [splitFirst, ih fun d member => none d (List.mem_cons_of_mem _ member), different]

theorem eq_append_of_splitFirst_eq {text piece rest : List Char}
    (cut : splitFirst separator text = (piece, some rest)) : text = piece ++ separator :: rest := by
  induction text generalizing piece with
  | nil => cases cut
  | cons c text ih =>
      rw [splitFirst] at cut
      split at cut
      · rename_i same
        cases cut
        rw [same]
        rfl
      · simp only [Prod.mk.injEq] at cut
        rcases cut with ⟨rfl, found⟩
        exact congrArg (c :: ·) (ih (Prod.ext rfl found))

end Url

end CloudAdmin
