import CloudAdmin.Proofs.Text.Numeral
import CloudAdmin.Proofs.Url.Origin
import CloudAdmin.Url.Segment

/-!
# Texts as segments

A text that is put into a path as one segment stays one segment, whatever characters it has: it is
plain, and it is written as it stands. The argument for dots is by decoding. What is resolved in a
path stands for one dot or two, also if the dots are encoded; a segment stands for the text that it
was made of; and a text of one dot or two is left out.

A segment can be read back to what is kept of the text that it was made of, and nothing else of the
text has any influence on it.
-/

namespace CloudAdmin.Url

section Dots

theorem toLower_eq_self_or (c : Char) :
    c.toLower = c ∨ ∃ code, code < 91 ∧ 65 ≤ code ∧ c = Char.ofNat code := by
  by_cases upper : c.val ≥ 'A'.val ∧ c.val ≤ 'Z'.val
  · have bounds : 65 ≤ c.toNat ∧ c.toNat ≤ 90 := upper
    exact .inr ⟨c.toNat, by omega, bounds.1, (Char.ofNat_toNat c).symm⟩
  · exact .inl (dif_neg upper)

theorem eq_of_toLower_eq {c mark : Char} (isMark : mark ∈ ".%2".toList) (same : c.toLower = mark) :
    c = mark := by
  rcases toLower_eq_self_or c with self | ⟨code, atMost, atLeast, rfl⟩
  · exact self.symm.trans same
  · have lowered : ∀ code, code < 91 → 65 ≤ code → (Char.ofNat code).toLower ∉ ".%2".toList := by
      decide
    exact absurd (same ▸ isMark) (lowered code atMost atLeast)

theorem hexValue?_of_toLower_eq {c : Char} (same : c.toLower = 'e') :
    Text.hexValue? c = some 14 := by
  rcases toLower_eq_self_or c with self | ⟨code, atMost, atLeast, rfl⟩
  · rw [self.symm.trans same]
    rfl
  · have lowered : ∀ code, code < 91 → 65 ≤ code → (Char.ofNat code).toLower = 'e' →
        Text.hexValue? (Char.ofNat code) = some 14 := by
      decide
    exact lowered code atMost atLeast same

theorem percentDecode_dot {part : List Char}
    (isDot : part.map Char.toLower = ['.'] ∨ part.map Char.toLower = ['%', '2', 'e'])
    (rest : List Char) :
    percentDecode (part ++ rest) = String.utf8EncodeChar '.' ++ percentDecode rest := by
  rcases isDot with plain | encoded
  · rcases List.map_eq_singleton_iff.mp plain with ⟨dot, rfl, same⟩
    rcases eq_of_toLower_eq (by decide) same with rfl
    exact percentDecode_cons_of_ne (by decide) rest
  · simp only [List.map_eq_cons_iff, List.map_eq_nil_iff] at encoded
    rcases encoded
      with ⟨percent, _, rfl, isPercent, two, _, rfl, isTwo, letter, _, rfl, isLetter, rfl⟩
    rcases eq_of_toLower_eq (by decide) isPercent with rfl
    rcases eq_of_toLower_eq (by decide) isTwo with rfl
    have two : Text.hexValue? '2' = some 2 := rfl
    simp only [List.cons_append, List.nil_append, percentDecode, two,
      hexValue?_of_toLower_eq isLetter]
    rfl

/-- What stands for the segment before it stands for two dots. -/
theorem percentDecode_of_isParentSegment {segment : List Char}
    (isParent : isParentSegment segment = true) :
    percentDecode segment = Text.Utf8.encode ['.', '.'] := by
  have parts {first second : List Char} (front : first = ['.'] ∨ first = ['%', '2', 'e'])
      (back : second = ['.'] ∨ second = ['%', '2', 'e'])
      (same : segment.map Char.toLower = first ++ second) :
      percentDecode segment = Text.Utf8.encode ['.', '.'] := by
    rcases List.map_eq_append_iff.mp same with ⟨dot, dot', rfl, rfl, rfl⟩
    rw [percentDecode_dot front, ← List.append_nil dot', percentDecode_dot back]
    rfl
  simp only [isParentSegment, Bool.or_eq_true, beq_iff_eq] at isParent
  rcases isParent with ((same | same) | same) | same
  · exact parts (.inl rfl) (.inl rfl) (by simpa using congrArg String.toList same)
  · exact parts (.inl rfl) (.inr rfl) (by simpa using congrArg String.toList same)
  · exact parts (.inr rfl) (.inl rfl) (by simpa using congrArg String.toList same)
  · exact parts (.inr rfl) (.inr rfl) (by simpa using congrArg String.toList same)

/-- What stands for nothing stands for one dot. -/
theorem percentDecode_of_isCurrentSegment {segment : List Char}
    (isCurrent : isCurrentSegment segment = true) :
    percentDecode segment = Text.Utf8.encode ['.'] := by
  have lowered : segment.map Char.toLower = ['.'] ∨ segment.map Char.toLower = ['%', '2', 'e'] := by
    simp only [isCurrentSegment, Bool.or_eq_true, beq_iff_eq] at isCurrent
    rcases isCurrent with same | same
    · exact .inl (by simpa using congrArg String.toList same)
    · exact .inr (by simpa using congrArg String.toList same)
  rw [← List.append_nil segment, percentDecode_dot lowered]
  rfl

theorem percentDecode_percentEncode {mustEncode : Char → Bool} (percent : mustEncode '%' = true)
    (text : List Char) : percentDecode (percentEncode mustEncode text) = Text.Utf8.encode text := by
  induction text with
  | nil => rfl
  | cons c rest ih =>
      rw [percentEncode, List.flatMap_cons, Text.Utf8.encode, List.flatMap_cons]
      split
      · rw [percentDecode_flatMap_percentByte]
        exact congrArg _ ih
      · rename_i kept
        have notPercent : c ≠ '%' := fun same => kept (same ▸ percent)
        rw [List.singleton_append, percentDecode_cons_of_ne notPercent]
        exact congrArg _ ih

end Dots

section Written

/-- Whether a text is written in a path as it stands. -/
def IsWritten (text : List Char) : Prop :=
  ∀ c ∈ text, inPathSet c = false ∧ c ≠ '\\'

theorem isIgnored_of_inPathSet {c : Char} (plain : inPathSet c = false) : isIgnored c = false := by
  have ignored : isIgnored c = true → inPathSet c = true := by
    intro ignored
    simp only [isIgnored, Bool.or_eq_true, beq_iff_eq] at ignored
    rcases ignored with (rfl | rfl) | rfl <;> decide
  cases kept : isIgnored c with
  | false => rfl
  | true => rw [ignored kept] at plain; cases plain

theorem visible_of_inPathSet {c : Char} (plain : inPathSet c = false) : 0x20 < c.toNat := by
  simp only [inPathSet, inFragmentSet, inControlSet, Bool.or_eq_false_iff, beq_eq_false_iff_ne,
    decide_eq_false_iff_not] at plain
  have notSpace := plain.1.1.1.1.1.1.1.1.2
  have different : c.toNat ≠ 0x20 := fun same => notSpace (Char.toNat_inj.mp same)
  omega

theorem IsWritten.withoutBreaks {text : List Char} (written : IsWritten text) :
    withoutBreaks text = text :=
  List.filter_eq_self.mpr fun c member => by
    simp [isIgnored_of_inPathSet (written c member).1]

theorem IsWritten.writtenPath {text : List Char} (written : IsWritten text) :
    writtenPath text = text := by
  have kept : ∀ c ∈ text, writtenCharacter c = [c] := by
    intro c member
    rcases written c member with ⟨plain, notBackslash⟩
    by_cases slash : c = '/'
    · subst slash
      rfl
    · have notSlash : isSlash true c = false := by simp [isSlash, slash, notBackslash]
      simp [writtenCharacter, notSlash, percentEncode, plain]
  rw [Url.writtenPath, written.withoutBreaks, List.flatMap_def, List.map_congr_left kept,
    ← List.flatMap_def, List.flatMap_singleton']

theorem IsWritten.splitSlashes {text : List Char} (written : IsWritten text) :
    splitSlashes true text = splitAll '/' text := by
  have mapped : (text.map fun c => if isSlash true c then '/' else c) = text := by
    refine (List.map_congr_left fun c member => ?_).trans (List.map_id text)
    by_cases slash : c = '/'
    · simp [slash]
    · simp [isSlash, slash, (written c member).2]
  rw [Url.splitSlashes, mapped]

theorem IsWritten.isPlainPath {text : List Char} (written : IsWritten text)
    (kept : ∀ segment ∈ splitAll '/' text,
      isParentSegment segment = false ∧ isCurrentSegment segment = false) : IsPlainPath text := by
  have absent {mark : Char} (isMark : inPathSet mark = true) : mark ∉ text := by
    intro member
    rw [(written mark member).1] at isMark
    cases isMark
  refine ⟨absent (by decide), absent (by decide), fun segment member => ?_⟩
  rw [written.withoutBreaks, written.splitSlashes] at member
  rw [IsKept,
    percentEncode_eq_self fun c inside => (written c (mem_of_mem_splitAll member inside)).1]
  exact kept segment member

/-- A test for texts that are plain and are written in a path as they stand. -/
def isWrittenPath (text : List Char) : Bool :=
  text.all (fun c => !inPathSet c && c != '\\') &&
    (splitAll '/' text).all fun segment => !isParentSegment segment && !isCurrentSegment segment

theorem isWritten_of_isWrittenPath {text : List Char} (plain : isWrittenPath text = true) :
    IsWritten text := by
  intro c member
  rw [isWrittenPath, Bool.and_eq_true] at plain
  simpa using List.all_eq_true.mp plain.1 c member

theorem isPlainPath_of_isWrittenPath {text : List Char} (plain : isWrittenPath text = true) :
    IsPlainPath text := by
  apply (isWritten_of_isWrittenPath plain).isPlainPath
  intro segment member
  rw [isWrittenPath, Bool.and_eq_true] at plain
  simpa using List.all_eq_true.mp plain.2 segment member

end Written

section Escapes

/-- Whether every percent sign of a text starts an escape of two digits. -/
def IsEscaped (text : List Char) : Prop :=
  ∀ front rest, text = front ++ '%' :: rest → ∃ high low back,
    rest = high :: low :: back ∧ Text.isHexDigit high = true ∧ Text.isHexDigit low = true

theorem isEscaped_nil : IsEscaped [] := by
  intro front rest whole
  simp at whole

theorem IsEscaped.cons {text : List Char} (escaped : IsEscaped text) {c : Char}
    (different : c ≠ '%') :
    IsEscaped (c :: text) := by
  intro front rest whole
  cases front with
  | nil => exact absurd (List.cons.inj whole).1 different
  | cons first front => exact escaped front rest (List.cons.inj whole).2

theorem IsEscaped.percentByte {text : List Char} (escaped : IsEscaped text) (byte : UInt8) :
    IsEscaped (percentByte byte ++ text) := by
  have digit {value : Nat} (small : value < 16) : Text.isHexDigit (Text.upperHex value) = true := by
    rw [Text.isHexDigit, hexValue?_upperHex small]
    rfl
  have different {value : Nat} (small : value < 16) : Text.upperHex value ≠ '%' := by
    intro same
    have isDigit := digit small
    rw [same] at isDigit
    cases isDigit
  have isByte := byte.toNat_lt
  have high : byte.toNat / 16 < 16 := by omega
  have low : byte.toNat % 16 < 16 := by omega
  intro front rest whole
  cases front with
  | nil => exact ⟨_, _, _, (List.cons.inj whole).2.symm, digit high, digit low⟩
  | cons first front =>
      exact (escaped.cons (different low)).cons (different high) front rest (List.cons.inj whole).2

theorem IsEscaped.flatMap_percentByte {text : List Char} (escaped : IsEscaped text)
    (bytes : List UInt8) : IsEscaped (bytes.flatMap Url.percentByte ++ text) := by
  induction bytes with
  | nil => exact escaped
  | cons byte bytes ih =>
      rw [List.flatMap_cons, List.append_assoc]
      exact ih.percentByte byte

theorem isEscaped_percentEncode {mustEncode : Char → Bool} (percent : mustEncode '%' = true)
    (text : List Char) : IsEscaped (percentEncode mustEncode text) := by
  induction text with
  | nil => exact isEscaped_nil
  | cons c rest ih =>
      rw [percentEncode, List.flatMap_cons]
      split
      · exact ih.flatMap_percentByte _
      · rename_i kept
        exact ih.cons fun same => kept (same ▸ percent)

end Escapes

section Values

theorem isSegmentCharacter_of_mem {value : String} {c : Char}
    (member : c ∈ (segment value).toList) :
    inSegmentSet c = false ∨ c = '%' := by
  simp only [segment] at member
  split at member
  · cases member
  · rw [String.toList_ofList] at member
    rcases mem_percentEncode member with ⟨plain, -⟩ | inEncoding
    · exact .inl plain
    · have all : "%0123456789ABCDEF".toList.all (fun c => !inSegmentSet c || c == '%') = true := by
        decide
      simpa using List.all_eq_true.mp all c inEncoding

theorem isWritten_segment (value : String) : IsWritten (segment value).toList := by
  intro c member
  rcases isSegmentCharacter_of_mem member with plain | rfl
  · simp only [inSegmentSet, Bool.or_eq_false_iff, beq_eq_false_iff_ne] at plain
    exact ⟨plain.1.1.1, plain.2⟩
  · exact ⟨by decide, by decide⟩

theorem slash_not_mem_segment (value : String) : '/' ∉ (segment value).toList := by
  intro member
  rcases isSegmentCharacter_of_mem member with plain | same
  · revert plain
    decide
  · cases same

/-- A segment that stands for one dot or two would be the text of just these. -/
theorem percentDecode_segment_ne {value : String} {dots : List Char}
    (isDots : isDotSegment dots = true) :
    percentDecode (segment value).toList ≠ Text.Utf8.encode dots := by
  simp only [segment]
  split
  · simp only [isDotSegment, Bool.or_eq_true, beq_iff_eq] at isDots
    rcases isDots with rfl | rfl <;> decide
  · rename_i notDots
    rw [String.toList_ofList, percentDecode_percentEncode (by decide)]
    intro same
    have texts := congrArg Text.Utf8.decodeLenient same
    rw [Text.Utf8.decodeLenient_encode, Text.Utf8.decodeLenient_encode] at texts
    exact notDots (texts ▸ isDots)

/-- Whether a text is one segment of a path, written as it stands and kept. -/
structure IsSegment (part : List Char) : Prop where
  written : IsWritten part
  noSlash : '/' ∉ part
  notParent : isParentSegment part = false
  notCurrent : isCurrentSegment part = false

/-- Whatever text a segment is made of, it stays one segment. -/
theorem isSegment_segment (value : String) : IsSegment (segment value).toList where
  written := isWritten_segment value
  noSlash := slash_not_mem_segment value
  notParent := Bool.eq_false_iff.mpr fun isParent =>
    percentDecode_segment_ne (by decide) (percentDecode_of_isParentSegment isParent)
  notCurrent := Bool.eq_false_iff.mpr fun isCurrent =>
    percentDecode_segment_ne (by decide) (percentDecode_of_isCurrentSegment isCurrent)

theorem IsSegment.splitAll {part : List Char} (one : IsSegment part) : splitAll '/' part = [part] :=
  splitAll_of_forall_ne fun _ inside => ne_of_mem_of_not_mem inside one.noSlash

theorem isPlainPath_segment (value : String) : IsPlainPath (segment value).toList := by
  apply (isWritten_segment value).isPlainPath
  intro part member
  rw [(isSegment_segment value).splitAll, List.mem_singleton] at member
  subst member
  exact ⟨(isSegment_segment value).notParent, (isSegment_segment value).notCurrent⟩

/-- What a segment keeps of the text that it is made of: all but tabs and line breaks, and nothing
of a dot segment. -/
def keptOf (value : String) : List Char :=
  let kept := withoutBreaks value.toList
  if isDotSegment kept then [] else kept

theorem toList_segment (value : String) :
    (segment value).toList = percentEncode inSegmentSet (keptOf value) := by
  simp only [segment, keptOf]
  by_cases dots : isDotSegment (withoutBreaks value.toList) = true
  · rw [if_pos dots]
    exact congrArg String.toList (if_pos dots)
  · rw [if_neg dots]
    exact (congrArg String.toList (if_neg dots)).trans String.toList_ofList

theorem percentDecode_segment (value : String) :
    percentDecode (segment value).toList = Text.Utf8.encode (keptOf value) := by
  rw [toList_segment, percentDecode_percentEncode (by decide)]

theorem decode?_segment (value : String) :
    Text.Utf8.decode? (percentDecode (segment value).toList) = some (keptOf value) := by
  rw [percentDecode_segment, Text.Utf8.decode?_encode]

/-- Two texts make the same segment just if the same is kept of them. -/
theorem segment_inj_iff {value other : String} :
    segment value = segment other ↔ keptOf value = keptOf other := by
  constructor
  · intro same
    have texts := congrArg (Text.Utf8.decode? ∘ percentDecode ∘ String.toList) same
    simp only [Function.comp_apply, decode?_segment] at texts
    exact Option.some.inj texts
  · intro same
    apply String.toList_inj.mp
    rw [toList_segment, toList_segment, same]

theorem segment_eq_empty_iff {value : String} : segment value = "" ↔ keptOf value = [] := by
  constructor
  · intro nothing
    have read := decode?_segment value
    rw [nothing] at read
    exact (Option.some.inj read).symm
  · intro nothing
    apply String.toList_inj.mp
    rw [toList_segment, nothing]
    rfl

/-- A text is kept whole just if there is nothing to drop from it and it is no dot segment. -/
theorem keptOf_eq_toList_iff {value : String} :
    keptOf value = value.toList ↔
      (∀ c ∈ value.toList, isIgnored c = false) ∧ isDotSegment value.toList = false := by
  have whole :
      withoutBreaks value.toList = value.toList ↔ ∀ c ∈ value.toList, isIgnored c = false := by
    rw [withoutBreaks, List.filter_eq_self]
    simp
  constructor
  · intro same
    simp only [keptOf] at same
    split at same
    · rename_i dots
      rw [← same] at dots
      cases dots
    · rename_i notDots
      rw [same] at notDots
      exact ⟨whole.mp same, Bool.eq_false_iff.mpr notDots⟩
  · rintro ⟨none, notDots⟩
    simp only [keptOf, whole.mpr none, notDots]
    rfl

/-- Nothing is kept of a text just if it is a dot segment or nothing, but for what is dropped. -/
theorem keptOf_eq_nil_iff {value : String} :
    keptOf value = [] ↔
      withoutBreaks value.toList = [] ∨ isDotSegment (withoutBreaks value.toList) = true := by
  simp only [keptOf]
  split
  · rename_i dots
    simp [dots]
  · rename_i notDots
    simp [notDots]

theorem exists_of_isDigit {c : Char} (digit : c.isDigit = true) :
    ∃ code, code < 58 ∧ 48 ≤ code ∧ c = Char.ofNat code := by
  simp only [Char.isDigit, Bool.and_eq_true, decide_eq_true_eq, ge_iff_le,
    UInt32.le_iff_toNat_le] at digit
  have bounds : 48 ≤ c.toNat ∧ c.toNat ≤ 57 := digit
  exact ⟨c.toNat, by omega, bounds.1, (Char.ofNat_toNat c).symm⟩

theorem segment_decimal (id : Nat) : segment (Text.decimal id) = Text.decimal id := by
  have digits : ∀ c ∈ (Text.decimal id).toList,
      isIgnored c = false ∧ inSegmentSet c = false ∧ c ≠ '.' := by
    intro c member
    rcases exists_of_isDigit (Text.isDigit_of_mem_decimal member) with ⟨code, atMost, atLeast, rfl⟩
    have all : ∀ code, code < 58 → 48 ≤ code → isIgnored (Char.ofNat code) = false ∧
        inSegmentSet (Char.ofNat code) = false ∧ Char.ofNat code ≠ '.' := by
      decide
    exact all code atMost atLeast
  have kept : (Text.decimal id).toList.filter (fun c => !isIgnored c) = (Text.decimal id).toList :=
    List.filter_eq_self.mpr fun c member => by simp [(digits c member).1]
  have notDots : isDotSegment (Text.decimal id).toList = false := by
    apply Bool.eq_false_iff.mpr
    intro dots
    simp only [isDotSegment, Bool.or_eq_true, beq_iff_eq] at dots
    rcases dots with same | same <;> exact (digits '.' (by simp [same])).2.2 rfl
  simp only [segment, kept, notDots, Bool.false_eq_true, if_false,
    percentEncode_eq_self fun c member => (digits c member).2.1, String.ofList_toList]

end Values

end CloudAdmin.Url
