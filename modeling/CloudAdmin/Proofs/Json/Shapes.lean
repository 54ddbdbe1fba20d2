import CloudAdmin.Json.Shape
import CloudAdmin.Proofs.Json.RoundTrip
import CloudAdmin.Proofs.Result

/-!
# Texts of a shape

The reader of a shape goes through a text once, from the left. This file says without it which
texts are of a shape and what is found in them: an object gives its members in any order, each
field of the shape at most once and no obligatory one left out, and its other members may hold
anything; an array gives each field of the shape in its order. Main statement: the reader accepts
exactly the texts of the shape, and finds what they give.
-/

namespace CloudAdmin.Json

/-- The tokens of what a field may hold, and the value that they stand for. -/
inductive IsField : FieldKind → List Token → Value → Prop where
  | text (text : String) : IsField .text [.string (some text)] (.string text)
  | natural (word : UInt64) : IsField .natural [.number (some (.unsigned word))] (.ofWord word)
  | optional {tokens : List Token} {value : Value}
      (read : readValue (nestingLimit - 1) tokens = some (value, [])) :
      IsField .optional tokens value

/-- The key of a member of an object, and the tokens of its value. -/
abbrev RawMember := String × List Token

/-- The tokens of a member. -/
def RawMember.tokens (member : RawMember) : List Token :=
  .string (some member.1) :: .colon :: member.2

/-- What is found when a member comes after others: a field of the shape, unless it was found
before, and nothing in any other member. -/
inductive Adds (shape : List FieldShape) (found : Found) : RawMember → Found → Prop where
  | field {key : String} {tokens : List Token} {field : FieldShape} {value : Value}
      (known : shape.find? (·.name == key) = some field)
      (fresh : Assoc.contains key found = false) (holds : IsField field.kind tokens value) :
      Adds shape found (key, tokens) ((key, value) :: found)
  | nothing {key : String} {tokens : List Token} (unknown : shape.find? (·.name == key) = none)
      (isValue : skipValue tokens = some []) : Adds shape found (key, tokens) found

/-- What is found in members that come after others. -/
inductive Gathers (shape : List FieldShape) : Found → List RawMember → Found → Prop where
  | done {found : Found} : Gathers shape found [] found
  | next {found between final : Found} {member : RawMember} {rest : List RawMember}
      (adds : Adds shape found member between) (gathers : Gathers shape between rest final) :
      Gathers shape found (member :: rest) final

/-- What is found in the items of an array, one for each field. -/
inductive Lists : List FieldShape → List (List Token) → Found → Prop where
  | done : Lists [] [] []
  | next {field : FieldShape} {fields : List FieldShape} {item : List Token}
      {items : List (List Token)} {value : Value} {found : Found}
      (holds : IsField field.kind item value) (lists : Lists fields items found) :
      Lists (field :: fields) (item :: items) ((field.name, value) :: found)

/-- Whether every obligatory field of a shape was found. -/
def IsComplete (shape : List FieldShape) (found : Found) : Prop :=
  ∀ field ∈ shape, field.kind = .optional ∨ Assoc.contains field.name found = true

/-- The tokens of a text of a shape, and what is found in it. -/
inductive IsOfShape (shape : List FieldShape) : List Token → Found → Prop where
  | object {members : List RawMember} {found : Found} (gathers : Gathers shape [] members found)
      (complete : IsComplete shape found) :
      IsOfShape shape (.openBrace ::
        (List.intercalate [.comma] (members.map RawMember.tokens) ++ [.closeBrace])) found
  | array {items : List (List Token)} {found : Found} (lists : Lists shape items found) :
      IsOfShape shape (.openBracket :: (List.intercalate [.comma] items ++ [.closeBracket])) found

section Fronts

variable {limit : Nat} {token : Token} {tokens rest : List Token} {value : Value}

theorem exists_front_cons {IsRead : List Token → Prop} (needsTokens : ¬IsRead []) :
    (∃ front, token :: tokens = front ++ rest ∧ IsRead front) ↔
      ∃ front, tokens = front ++ rest ∧ IsRead (token :: front) := by
  constructor
  · rintro ⟨front, same, isRead⟩
    cases front with
    | nil => exact absurd isRead needsTokens
    | cons first front =>
        rcases List.cons.inj same with ⟨rfl, rfl⟩
        exact ⟨front, rfl, isRead⟩
  · rintro ⟨front, rfl, isRead⟩
    exact ⟨token :: front, rfl, isRead⟩

/-- A value is read from the front of the tokens, whatever follows it. -/
theorem readFrom_eq_some_iff {frames : List Frame} {expecting : Expecting} :
    readFrom limit frames expecting tokens = some (value, rest) ↔
      ∃ front, tokens = front ++ rest ∧
        readFrom limit frames expecting front = some (value, []) := by
  induction tokens generalizing frames expecting with
  | nil => simp [readFrom]
  | cons token tokens ih =>
      rw [exists_front_cons (by simp [readFrom])]
      simp only [readFrom_cons]
      cases step limit frames expecting token with
      | refused => simp [resume]
      | continues frames expecting => exact ih
      | complete value' => simp [and_comm]

/-- A value that is skipped is skipped whatever follows it. -/
theorem skipFrom_eq_some_iff {containers : List Container} {expecting : Skipping} :
    skipFrom containers expecting tokens = some rest ↔
      ∃ front, tokens = front ++ rest ∧ skipFrom containers expecting front = some [] := by
  induction tokens generalizing containers expecting with
  | nil => simp [skipFrom]
  | cons token tokens ih =>
      rw [exists_front_cons (by simp [skipFrom])]
      simp only [skipFrom]
      cases skipStep containers expecting token with
      | refused => simp
      | continues containers expecting => exact ih
      | complete => simp

end Fronts

section Fields

variable {shape fields : List FieldShape} {kind : FieldKind} {found final : Found}
  {tokens rest : List Token} {value : Value} {key : String}

theorem readField_eq_ok_iff :
    readField kind tokens = .ok (value, rest) ↔
      ∃ front, tokens = front ++ rest ∧ IsField kind front value := by
  constructor
  · intro read
    unfold readField at read
    split at read
    · cases read
    · cases read
      exact ⟨[_], rfl, .text _⟩
    · cases read
      exact ⟨[_], rfl, .natural _⟩
    · split at read
      · rename_i result found
        cases read
        rcases readFrom_eq_some_iff.mp found with ⟨front, rfl, read⟩
        exact ⟨front, rfl, .optional read⟩
      · cases read
    · cases read
  · rintro ⟨front, rfl, isField⟩
    cases isField with
    | text text => rfl
    | natural word => rfl
    | optional read =>
        have whole : readValue (nestingLimit - 1) (front ++ rest) = some (value, rest) :=
          readFrom_eq_some_iff.mpr ⟨front, rfl, read⟩
        cases front with
        | nil => cases read
        | cons token front =>
            rw [List.cons_append] at whole ⊢
            simp only [readField, whole]

/-- A field has a token, and does not begin with the end of an array. -/
theorem IsField.exists_cons (isField : IsField kind tokens value) :
    ∃ token others, tokens = token :: others ∧ token ≠ .closeBracket := by
  cases isField with
  | text text => exact ⟨_, _, rfl, by simp⟩
  | natural word => exact ⟨_, _, rfl, by simp⟩
  | optional read =>
      cases tokens with
      | nil => cases read
      | cons token others =>
          refine ⟨token, others, rfl, ?_⟩
          rintro rfl
          cases read

theorem readMember_eq_ok_iff :
    readMember shape found key tokens = .ok (final, rest) ↔
      ∃ front, tokens = .colon :: front ++ rest ∧ Adds shape found (key, front) final := by
  constructor
  · intro read
    unfold readMember at read
    split at read
    · rename_i unknown
      split at read
      · split at read
        · rename_i skipped
          cases read
          rcases skipFrom_eq_some_iff.mp skipped with ⟨front, rfl, isValue⟩
          exact ⟨front, rfl, .nothing unknown isValue⟩
        · cases read
      · cases read
    · rename_i field known
      split at read
      · cases read
      · rename_i fresh
        split at read
        · rcases exists_of_bind_eq_ok read with ⟨⟨value, remaining⟩, held, built⟩
          cases built
          rcases readField_eq_ok_iff.mp held with ⟨front, rfl, holds⟩
          exact ⟨front, rfl, .field known (Bool.eq_false_iff.mpr fresh) holds⟩
        · cases read
  · rintro ⟨front, rfl, adds⟩
    cases adds with
    | field known fresh holds =>
        have held : readField _ (front ++ rest) = .ok (_, rest) :=
          readField_eq_ok_iff.mpr ⟨front, rfl, holds⟩
        simp only [readMember, known, fresh, List.cons_append, held, Bool.false_eq_true, if_false]
        rfl
    | nothing unknown isValue =>
        have skipped : skipValue (front ++ rest) = some rest :=
          skipFrom_eq_some_iff.mpr ⟨front, rfl, isValue⟩
        simp only [readMember, unknown, List.cons_append, skipped]

theorem checkComplete_eq_ok_iff :
    checkComplete shape found = .ok final ↔ final = found ∧ IsComplete shape found := by
  have same : (shape.all fun field =>
      field.kind == .optional || Assoc.contains field.name found) = true ↔
        IsComplete shape found := by
    simp [IsComplete]
  unfold checkComplete
  split
  · rename_i complete
    simp [same.mp complete, eq_comm]
  · rename_i incomplete
    simp [mt same.mpr incomplete]

/-- The tokens of pieces, each after a comma. -/
def furtherTokens (pieces : List (List Token)) : List Token :=
  pieces.flatMap (.comma :: ·)

theorem intercalate_cons (piece : List Token) (pieces : List (List Token)) :
    List.intercalate [.comma] (piece :: pieces) = piece ++ furtherTokens pieces := by
  induction pieces generalizing piece with
  | nil => simp [furtherTokens]
  | cons next pieces ih =>
      rw [List.intercalate_cons_cons, ih]
      simp [furtherTokens]

theorem length_le_furtherTokens (pieces : List (List Token)) :
    pieces.length ≤ (furtherTokens pieces).length := by
  induction pieces with
  | nil => exact Nat.le_refl _
  | cons piece pieces ih =>
      simp only [furtherTokens, List.flatMap_cons, List.length_append, List.length_cons] at ih ⊢
      omega

theorem gathers_of_readMembers {bound : Nat}
    (read : readMembers shape bound found tokens = .ok (final, rest)) :
    ∃ members, tokens = furtherTokens (members.map RawMember.tokens) ++ .closeBrace :: rest ∧
      Gathers shape found members final ∧ IsComplete shape final := by
  induction bound generalizing found tokens with
  | zero => cases read
  | succ bound ih =>
      unfold readMembers at read
      split at read
      · rcases exists_of_bind_eq_ok read with ⟨checked, complete, built⟩
        cases built
        rcases checkComplete_eq_ok_iff.mp complete with ⟨rfl, isComplete⟩
        exact ⟨[], rfl, .done, isComplete⟩
      · rename_i key rest'
        rcases exists_of_bind_eq_ok read with ⟨⟨between, remaining⟩, first, others⟩
        rcases readMember_eq_ok_iff.mp first with ⟨front, rfl, adds⟩
        rcases ih others with ⟨members, rfl, gathers, complete⟩
        refine ⟨(key, front) :: members, ?_, .next adds gathers, complete⟩
        simp [furtherTokens, RawMember.tokens]
      · cases read

theorem readMembers_of_gathers {members : List RawMember} {bound : Nat}
    (gathers : Gathers shape found members final) (complete : IsComplete shape final)
    (enough : members.length < bound) :
    readMembers shape bound found
        (furtherTokens (members.map RawMember.tokens) ++ .closeBrace :: rest) =
      .ok (final, rest) := by
  -- The bound counts members, so each of them takes one off it.
  induction gathers generalizing bound with
  | done =>
      cases bound with
      | zero => cases enough
      | succ bound =>
          have checked := checkComplete_eq_ok_iff.mpr ⟨rfl, complete⟩
          simp only [readMembers, furtherTokens, List.map_nil, List.flatMap_nil, List.nil_append,
            checked]
          rfl
  | @next found between final member members adds gathers ih =>
      rcases member with ⟨key, front⟩
      cases bound with
      | zero => cases enough
      | succ bound =>
          let others := furtherTokens (members.map RawMember.tokens) ++ .closeBrace :: rest
          have first : readMember shape found key (.colon :: front ++ others) =
              .ok (between, others) := readMember_eq_ok_iff.mpr ⟨front, rfl, adds⟩
          have split : furtherTokens ((⟨key, front⟩ :: members).map RawMember.tokens) ++
              .closeBrace :: rest =
                .comma :: .string (some key) :: (.colon :: front ++ others) := by
            simp [furtherTokens, RawMember.tokens, others]
          rw [split, readMembers, first]
          exact ih complete (Nat.lt_of_succ_lt_succ enough)

/-- The object of a shape is read up to its closing brace. -/
theorem readObject_eq_ok_iff :
    readObject shape tokens = .ok (final, rest) ↔
      ∃ members, tokens =
          List.intercalate [.comma] (members.map RawMember.tokens) ++ .closeBrace :: rest ∧
        Gathers shape [] members final ∧ IsComplete shape final := by
  constructor
  · intro read
    unfold readObject at read
    split at read
    · rcases exists_of_bind_eq_ok read with ⟨checked, complete, built⟩
      cases built
      rcases checkComplete_eq_ok_iff.mp complete with ⟨rfl, isComplete⟩
      exact ⟨[], rfl, .done, isComplete⟩
    · rename_i key rest'
      rcases exists_of_bind_eq_ok read with ⟨⟨between, remaining⟩, first, others⟩
      rcases readMember_eq_ok_iff.mp first with ⟨front, rfl, adds⟩
      rcases gathers_of_readMembers others with ⟨members, rfl, gathers, complete⟩
      refine ⟨(key, front) :: members, ?_, .next adds gathers, complete⟩
      simp [intercalate_cons, RawMember.tokens]
    · cases read
  · rintro ⟨members, rfl, gathers, complete⟩
    cases gathers with
    | done =>
        have checked := checkComplete_eq_ok_iff.mpr ⟨rfl, complete⟩
        simp only [List.map_nil, List.intercalate_nil, List.nil_append, readObject, checked]
        rfl
    | @next _ between _ member members adds gathers =>
        rcases member with ⟨key, front⟩
        let others := furtherTokens (members.map RawMember.tokens) ++ .closeBrace :: rest
        have first : readMember shape [] key (.colon :: front ++ others) =
            .ok (between, others) := readMember_eq_ok_iff.mpr ⟨front, rfl, adds⟩
        -- The bound that the reader starts with is the number of tokens, and no member has none.
        have enough : members.length < others.length := by
          have atMost := length_le_furtherTokens (members.map RawMember.tokens)
          rw [List.length_map] at atMost
          simp only [others, List.length_append, List.length_cons]
          omega
        have split : List.intercalate [.comma] ((⟨key, front⟩ :: members).map RawMember.tokens) ++
            .closeBrace :: rest = .string (some key) :: (.colon :: front ++ others) := by
          simp [intercalate_cons, RawMember.tokens, others]
        rw [split, readObject, first]
        exact readMembers_of_gathers gathers complete enough

/-- Read the item for a field and the items after it. -/
def readItems (field : FieldShape) (fields : List FieldShape) (tokens : List Token) :
    Except Fault (Found × List Token) := do
  let (value, remaining) ← readField field.kind tokens
  let (found, final) ← readPositions fields false remaining
  return ((field.name, value) :: found, final)

theorem readPositions_comma (field : FieldShape) (fields : List FieldShape) (tokens : List Token) :
    readPositions (field :: fields) false (.comma :: tokens) = readItems field fields tokens := rfl

theorem readPositions_first {token : Token} (notEnd : token ≠ .closeBracket) (field : FieldShape)
    (fields : List FieldShape) (tokens : List Token) :
    readPositions (field :: fields) true (token :: tokens) =
      readItems field fields (token :: tokens) := by
  cases token with
  | closeBracket => exact absurd rfl notEnd
  | _ => rfl

theorem readItems_eq_ok_iff {field : FieldShape}
    (later : ∀ {tokens final}, readPositions fields false tokens = .ok (final, rest) ↔
      ∃ items, tokens = furtherTokens items ++ .closeBracket :: rest ∧ Lists fields items final) :
    readItems field fields tokens = .ok (final, rest) ↔
      ∃ item items, tokens = item ++ furtherTokens items ++ .closeBracket :: rest ∧
        Lists (field :: fields) (item :: items) final := by
  constructor
  · intro read
    rcases exists_of_bind_eq_ok read with ⟨⟨value, remaining⟩, held, more⟩
    rcases exists_of_bind_eq_ok more with ⟨⟨found, left⟩, others, built⟩
    cases built
    rcases readField_eq_ok_iff.mp held with ⟨item, rfl, holds⟩
    rcases later.mp others with ⟨items, rfl, lists⟩
    exact ⟨item, items, (List.append_assoc ..).symm, .next holds lists⟩
  · rintro ⟨item, items, rfl, lists⟩
    cases lists with
    | next holds lists =>
        have others := later.mpr ⟨items, rfl, lists⟩
        have held : readField field.kind (item ++ (furtherTokens items ++ .closeBracket :: rest)) =
            .ok (_, furtherTokens items ++ .closeBracket :: rest) :=
          readField_eq_ok_iff.mpr ⟨item, rfl, holds⟩
        rw [List.append_assoc, readItems, held]
        simp only [bind, Except.bind, others]
        rfl

theorem readPositions_nil_eq_ok_iff {first : Bool} :
    readPositions [] first tokens = .ok (final, rest) ↔
      tokens = .closeBracket :: rest ∧ final = [] := by
  cases tokens with
  | nil => simp [readPositions]
  | cons token tokens => cases token <;> simp [readPositions, and_comm, eq_comm]

/-- The items of an array that come after others are read each after a comma. -/
theorem readPositions_false_eq_ok_iff :
    readPositions fields false tokens = .ok (final, rest) ↔
      ∃ items, tokens = furtherTokens items ++ .closeBracket :: rest ∧
        Lists fields items final := by
  induction fields generalizing tokens final with
  | nil =>
      rw [readPositions_nil_eq_ok_iff]
      constructor
      · rintro ⟨rfl, rfl⟩
        exact ⟨[], rfl, .done⟩
      · rintro ⟨items, rfl, lists⟩
        cases lists
        exact ⟨rfl, rfl⟩
  | cons field fields ih =>
      constructor
      · intro read
        cases tokens with
        | nil => cases read
        | cons token tokens =>
            cases token with
            | comma =>
                rcases (readItems_eq_ok_iff ih).mp read with ⟨item, items, rfl, lists⟩
                exact ⟨item :: items, by simp [furtherTokens], lists⟩
            | _ => cases read
      · rintro ⟨items, rfl, lists⟩
        cases items with
        | nil => cases lists
        | cons item items =>
            have split : furtherTokens (item :: items) ++ .closeBracket :: rest =
                .comma :: (item ++ furtherTokens items ++ .closeBracket :: rest) := by
              simp [furtherTokens]
            rw [split, readPositions_comma]
            exact (readItems_eq_ok_iff ih).mpr ⟨item, items, rfl, lists⟩

/-- The items of an array are read up to its closing bracket. -/
theorem readPositions_true_eq_ok_iff :
    readPositions shape true tokens = .ok (final, rest) ↔
      ∃ items, tokens = List.intercalate [.comma] items ++ .closeBracket :: rest ∧
        Lists shape items final := by
  cases shape with
  | nil =>
      rw [readPositions_nil_eq_ok_iff]
      constructor
      · rintro ⟨rfl, rfl⟩
        exact ⟨[], rfl, .done⟩
      · rintro ⟨items, rfl, lists⟩
        cases lists
        exact ⟨rfl, rfl⟩
  | cons field fields =>
      have items_iff := @readItems_eq_ok_iff fields final tokens rest field
        readPositions_false_eq_ok_iff
      constructor
      · intro read
        have begun : readItems field fields tokens = .ok (final, rest) := by
          cases tokens with
          | nil => cases read
          | cons token tokens =>
              rwa [readPositions_first (by rintro rfl; cases read)] at read
        rcases items_iff.mp begun with ⟨item, items, rfl, lists⟩
        exact ⟨item :: items, by rw [intercalate_cons], lists⟩
      · rintro ⟨items, same, lists⟩
        cases items with
        | nil => cases lists
        | cons item items =>
            rw [intercalate_cons] at same
            have begun := items_iff.mpr ⟨item, items, same, lists⟩
            cases lists with
            | next holds lists =>
                rcases holds.exists_cons with ⟨token, others, rfl, notEnd⟩
                rw [same, List.cons_append, List.cons_append] at begun ⊢
                rwa [readPositions_first notEnd]

theorem isOfShape_openBrace_iff :
    IsOfShape shape (.openBrace :: tokens) found ↔ readObject shape tokens = .ok (found, []) := by
  rw [readObject_eq_ok_iff]
  constructor
  · intro isOfShape
    cases isOfShape with
    | object gathers complete => exact ⟨_, rfl, gathers, complete⟩
  · rintro ⟨members, rfl, gathers, complete⟩
    exact .object gathers complete

theorem isOfShape_openBracket_iff :
    IsOfShape shape (.openBracket :: tokens) found ↔
      readPositions shape true tokens = .ok (found, []) := by
  rw [readPositions_true_eq_ok_iff]
  constructor
  · intro isOfShape
    cases isOfShape with
    | array lists => exact ⟨_, rfl, lists⟩
  · rintro ⟨items, rfl, lists⟩
    exact .array lists

/-- A text is read just if it is of the shape, and what is found is what it gives. -/
theorem readShape_eq_ok_iff {text : String} :
    readShape shape text = .ok found ↔ IsOfShape shape (scan text) found := by
  have whole (parts : Except Fault (Found × List Token)) :
      (parts >>= fun result => if result.2.isEmpty then .ok result.1 else .error .unreadable) =
          .ok found ↔ parts = .ok (found, []) := by
    cases parts with
    | error fault => simp [bind, Except.bind]
    | ok result =>
        rcases result with ⟨found', rest⟩
        cases rest <;> simp [bind, Except.bind]
  unfold readShape
  cases scan text with
  | nil =>
      constructor
      · intro read
        cases read
      · intro isOfShape
        cases isOfShape
  | cons token tokens =>
      cases token with
      | openBrace => exact (whole _).trans isOfShape_openBrace_iff.symm
      | openBracket => exact (whole _).trans isOfShape_openBracket_iff.symm
      | _ =>
          constructor
          · intro read
            cases read
          · intro isOfShape
            cases isOfShape

theorem Found.text?_eq_some_iff {name text : String} :
    found.text? name = some text ↔ Assoc.find? name found = some (.string text) :=
  Value.bind_toString?_eq_some_iff

end Fields

end CloudAdmin.Json
