import Mathlib.Data.List.DropRight
import CloudAdmin.Http.Status

/-!
# How long to pause

A server that is asked too often says how long to pause, in a header or in a member of its body.
Main statement: whatever its headers and its body are, such an answer is reported together with the
body, and with the number of seconds that the first header of the name begins with. If there is no
such header, or it begins with no number that fits a word, the seconds are those in the body, and
none if the body has none either.
-/

namespace CloudAdmin

namespace Text

/-- Whether a text begins with a number once its blanks are trimmed. All digits up to the first
character that is none denote the number. -/
inductive BeginsWithNumber : List Char → Nat → Prop where
  | intro {blanks digits rest : List Char} (areBlank : ∀ c ∈ blanks, isBlank c = true)
      (some_ : digits ≠ []) (areDigits : ∀ c ∈ digits, c.isDigit = true)
      (ends : ∀ c, rest.head? = some c → c.isDigit = false) :
      BeginsWithNumber (blanks ++ (digits ++ rest)) (digitsValue digits)

theorem not_isBlank_of_isDigit {c : Char} (digit : c.isDigit = true) : isBlank c = false := by
  have bounds : 48 ≤ c.toNat ∧ c.toNat ≤ 57 := by
    simpa [Char.isDigit, UInt32.le_iff_toNat_le] using digit
  simp only [isBlank, Bool.or_eq_false_iff, Bool.and_eq_false_iff, decide_eq_false_iff_not,
    beq_eq_false_iff_ne]
  omega

/-- Blanks at the end of a text do not belong to a number at its beginning. -/
theorem takeWhile_isDigit_trimBlanks (text : List Char) :
    (trimBlanks text).takeWhile Char.isDigit = (text.dropWhile isBlank).takeWhile Char.isDigit := by
  have trimmed : trimBlanks text = (text.dropWhile isBlank).rdropWhile isBlank := rfl
  rw [trimmed]
  induction text.dropWhile isBlank using List.reverseRecOn with
  | nil => rfl
  | append_singleton front c ih =>
      rw [List.rdropWhile_concat]
      split
      · rename_i blank
        have noDigit : ¬c.isDigit = true := by
          intro digit
          rw [not_isBlank_of_isDigit digit] at blank
          cases blank
        rw [ih, List.takeWhile_append]
        split
        · rename_i all
          simp [noDigit, (List.takeWhile_prefix _).eq_of_length all]
        · rfl
      · rfl

theorem takeWhile_isDigit_of_begins {blanks digits rest : List Char}
    (areBlank : ∀ c ∈ blanks, isBlank c = true) (some_ : digits ≠ [])
    (areDigits : ∀ c ∈ digits, c.isDigit = true)
    (ends : ∀ c, rest.head? = some c → c.isDigit = false) :
    ((blanks ++ (digits ++ rest)).dropWhile isBlank).takeWhile Char.isDigit = digits := by
  have kept : (digits ++ rest).dropWhile isBlank = digits ++ rest := by
    cases digits with
    | nil => exact absurd rfl some_
    | cons first others =>
        have visible := not_isBlank_of_isDigit (areDigits first (.head _))
        simp [visible]
  have noMore : rest.takeWhile Char.isDigit = [] := by
    cases rest with
    | nil => rfl
    | cons next others => simp [ends next rfl]
  rw [List.dropWhile_append_of_pos areBlank, kept, List.takeWhile_append_of_pos areDigits, noMore,
    List.append_nil]

/-- The number that a text begins with is read if it fits a word. -/
theorem leadingWord64?_eq_some_iff {text : List Char} {word : UInt64} :
    leadingWord64? (trimBlanks text) = some word ↔ BeginsWithNumber text word.toNat := by
  rw [leadingWord64?, takeWhile_isDigit_trimBlanks, Option.bind_eq_some_iff]
  simp only [word64?_eq_some_iff]
  constructor
  · rintro ⟨number, natural, rfl⟩
    unfold natural? at natural
    split at natural
    · cases natural
    · rename_i isNumeral
      rw [← Option.some.inj natural]
      have split : text = text.takeWhile isBlank ++
          ((text.dropWhile isBlank).takeWhile Char.isDigit ++
            (text.dropWhile isBlank).dropWhile Char.isDigit) := by
        simp only [List.takeWhile_append_dropWhile]
      nth_rewrite 1 [split]
      refine .intro (fun c => List.mem_takeWhile_imp) ?_ (fun c => List.mem_takeWhile_imp) ?_
      · intro empty
        simp [empty] at isNumeral
      · intro c first
        have stops := List.head?_dropWhile_not Char.isDigit (text.dropWhile isBlank)
        rw [first] at stops
        exact stops
  · generalize word.toNat = number
    intro begins
    cases begins with
    | intro areBlank some_ areDigits ends =>
        rw [takeWhile_isDigit_of_begins areBlank some_ areDigits ends]
        refine ⟨_, ?_, rfl⟩
        simpa [natural?, some_] using areDigits

end Text

namespace Http

/-- Whether the headers ask for a pause: the first one of the name, in whatever case the name is
written, begins with a number of seconds. -/
inductive Headers.AskPause (headers : Headers) (seconds : UInt64) : Prop where
  | intro {before after : Headers} {name text : String}
      (split : headers = before ++ (name, text) :: after)
      (named : Text.foldAscii name = "retry-after".toList)
      (first : ∀ header ∈ before, Text.foldAscii header.1 ≠ "retry-after".toList)
      (begins : Text.BeginsWithNumber text.toList seconds.toNat)

/-- Whether a body asks for a pause: it is an object with a member that is a number of seconds, or a
text that begins with one. -/
inductive BodyAsksPause (body : String) (seconds : UInt64) : Prop where
  | number {fields : Json.Fields} (isObject : Json.parse? body = some (.object fields))
      (found : Assoc.find? "Retry-After" fields = some (.number (.unsigned seconds)))
  | text {fields : Json.Fields} {text : String}
      (isObject : Json.parse? body = some (.object fields))
      (found : Assoc.find? "Retry-After" fields = some (.string text))
      (begins : Text.BeginsWithNumber text.toList seconds.toNat)

namespace Response

variable {response : Response} {seconds : UInt64}

theorem leadingSeconds?_eq_some_iff {text : String} :
    leadingSeconds? text = some seconds ↔ Text.BeginsWithNumber text.toList seconds.toNat :=
  Text.leadingWord64?_eq_some_iff

theorem pauseInHeader?_eq_some_iff :
    response.pauseInHeader? = some seconds ↔ response.headers.AskPause seconds := by
  have named (name : String) : Text.sameName name "retry-after" = true ↔
      Text.foldAscii name = "retry-after".toList := by
    simp [Text.sameName, show Text.foldAscii "retry-after" = "retry-after".toList from rfl]
  simp only [pauseInHeader?, header?, Headers.find?, Option.bind_eq_some_iff,
    Option.map_eq_some_iff, List.find?_eq_some_iff_append, leadingSeconds?_eq_some_iff]
  constructor
  · rintro ⟨text, ⟨⟨name, _⟩, ⟨same, before, after, split, first⟩, rfl⟩, begins⟩
    refine .intro split ((named name).mp same) (fun header member other => ?_) begins
    have different := first header member
    rw [(named header.1).mpr other] at different
    cases different
  · rintro ⟨split, same, first, begins⟩
    refine ⟨_, ⟨_, ⟨(named _).mpr same, _, _, split, fun header member => ?_⟩, rfl⟩, begins⟩
    rw [Bool.not_eq_true', ← Bool.not_eq_true, named]
    exact first header member

theorem pauseInBody?_eq_some_iff :
    response.pauseInBody? = some seconds ↔ BodyAsksPause response.body seconds := by
  unfold pauseInBody?
  constructor
  · intro asked
    split at asked
    · rename_i number held
      rcases Option.bind_eq_some_iff.mp held with ⟨value, parsed, found⟩
      rcases Json.Value.field?_eq_some_iff.mp found with ⟨fields, rfl, found⟩
      cases number <;> cases asked
      exact .number parsed found
    · rename_i text held
      rcases Option.bind_eq_some_iff.mp held with ⟨value, parsed, found⟩
      rcases Json.Value.field?_eq_some_iff.mp found with ⟨fields, rfl, found⟩
      exact .text parsed found (leadingSeconds?_eq_some_iff.mp asked)
    · cases asked
  · rintro (⟨isObject, found⟩ | ⟨isObject, found, begins⟩)
    · simp [isObject, Json.Value.field?, found, Json.Number.toWord64?]
    · simp [isObject, Json.Value.field?, found, leadingSeconds?_eq_some_iff, begins]

/-- An answer of too many requests is always reported, with its body as it is. The seconds to pause
are those that its headers ask for, or else those that its body asks for. -/
theorem check_tells_pause (headers : Headers) (body : String) :
    ∃ pause, check ⟨429, headers, body⟩ = .error (.rateLimited pause body) ∧
      ∀ seconds, pause = some seconds ↔
        headers.AskPause seconds ∨
          (∀ other, ¬headers.AskPause other) ∧ BodyAsksPause body seconds := by
  refine ⟨retryAfter? ⟨429, headers, body⟩, rfl, fun seconds => ?_⟩
  rw [retryAfter?, Option.or_eq_some_iff, pauseInHeader?_eq_some_iff, pauseInBody?_eq_some_iff,
    Option.eq_none_iff_forall_ne_some]
  simp only [ne_eq, pauseInHeader?_eq_some_iff]

/-- A date in the header is passed over. -/
example : retryAfter? ⟨429, [("retry-after", "Wed, 21 Oct 2026 07:28:00 GMT")],
    "\x7b\"Retry-After\":\" 4 seconds\"\x7d"⟩ = some 4 := by
  decide +kernel

end Response

end Http

end CloudAdmin
