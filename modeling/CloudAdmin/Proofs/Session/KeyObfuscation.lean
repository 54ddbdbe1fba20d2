import CloudAdmin.Login.KeyObfuscation
import CloudAdmin.Proofs.Text.Numeral

/-!
# Characters picked from a key

The time decides which characters of an API key are sent: the last six digits of its milliseconds
are the places of six characters, and the six digits of half their value, each moved on by two, are
the places of six more. Places are counted in characters, whatever script the key is written in.
Main statement: the twelve characters are those at these places if the key reaches as far as that,
and else the key is refused as too short; twelve characters are always enough; and nothing but the
last six digits of the time matters.
-/

namespace CloudAdmin

/-- The digit at a place of a number that is written with six digits, counted from the front. -/
def digitOfSix (value place : Nat) : Nat :=
  value / Nat.pow 10 (5 - place) % 10

/-- The milliseconds of a time that pick characters. -/
def recentPart (time : UInt64) : Nat :=
  time.toNat % 1000000

/-- Whether a key has a character at each place that a time picks. -/
def ReachesPicked (key : String) (time : UInt64) : Prop :=
  ∀ place < 6, digitOfSix (recentPart time) place < key.length ∧
    digitOfSix (recentPart time / 2) place + 2 < key.length

instance (key : String) (time : UInt64) : Decidable (ReachesPicked key time) :=
  inferInstanceAs (Decidable (∀ place < 6, _ ∧ _))

/-- The places of the characters that a time picks, in their order. -/
def pickedPlaces (time : UInt64) : List Nat :=
  (List.range 6).map (digitOfSix (recentPart time)) ++
    (List.range 6).map (fun place => digitOfSix (recentPart time / 2) place + 2)

/-- The character of a key at a place. -/
def keyCharacter (key : List Char) (place : Nat) : Except ApiError Char :=
  match key[place]? with
  | some c => .ok c
  | none => .error .shortApiKey

section Digits

theorem recentPart_lt (time : UInt64) : recentPart time < Nat.pow 10 6 :=
  Nat.mod_lt _ (by decide)

theorem recentPart_half_lt (time : UInt64) : recentPart time / 2 < Nat.pow 10 6 :=
  Nat.lt_of_le_of_lt (Nat.div_le_self _ _) (recentPart_lt time)

/-- The last six characters of a time's numeral are the numeral of its remainder. -/
theorem recentDigits_eq (time : UInt64) :
    recentDigits time = Text.paddedDecimal 6 (recentPart time) :=
  Text.drop_paddedDecimal 5 time.toNat

/-- The digits of a time can be read as a number, so that half of it has six digits again. -/
theorem halvedDigits_recentDigits (time : UInt64) :
    halvedDigits (recentDigits time) = .ok (Text.paddedDecimal 6 (recentPart time / 2)) := by
  have fits : recentPart time < UInt64.size := Nat.lt_trans (recentPart_lt time) (by decide)
  have half : (UInt64.ofNat (recentPart time) >>> 1).toNat = recentPart time / 2 := by
    rw [UInt64.toNat_shiftRight, UInt64.toNat_ofNat_of_lt' fits]
    exact Nat.shiftRight_eq_div_pow _ 1
  rw [recentDigits_eq, halvedDigits, Text.parseWord64_paddedDecimal 6 fits]
  simp only [half]

theorem mapM_pickKeyCharacter (key : List Char) (offset : Nat) {value : Nat}
    (fits : value < Nat.pow 10 6) :
    (Text.paddedDecimal 6 value).mapM (pickKeyCharacter key offset) =
      ((List.range 6).map fun place => digitOfSix value place + offset).mapM
        (keyCharacter key) := by
  have places := congrArg (List.map (· + offset)) (Text.map_digitValue_paddedDecimal fits)
  rw [List.map_map, List.map_map] at places
  refine Eq.trans (Eq.trans (mapM_congr ?_) List.mapM_map.symm)
    (congrArg (List.mapM (keyCharacter key)) places)
  intro digit member
  have isDigit := Text.isDigit_of_mem_paddedDecimal member
  rw [pickKeyCharacter, Text.digit?, if_pos isDigit]
  rfl

/-- A key is obfuscated by the characters at the places that the time picks. -/
theorem obfuscateKey_eq (key : String) (time : UInt64) :
    obfuscateKey key time =
      (pickedPlaces time).mapM (keyCharacter key.toList) >>=
        fun picked => .ok (String.ofList picked) := by
  have front := mapM_pickKeyCharacter key.toList 0 (recentPart_lt time)
  have back := mapM_pickKeyCharacter key.toList 2 (recentPart_half_lt time)
  rw [obfuscateKey, halvedDigits_recentDigits, recentDigits_eq, pickedPlaces, List.mapM_append]
  change ((Text.paddedDecimal 6 (recentPart time)).mapM (pickKeyCharacter key.toList 0) >>=
    fun front => (Text.paddedDecimal 6 (recentPart time / 2)).mapM
      (pickKeyCharacter key.toList 2) >>= fun back => .ok (String.ofList (front ++ back))) = _
  rw [front, back]
  simp only [bind_assoc, Nat.add_zero]
  rfl

end Digits

section Places

variable {key picked : String} {time : UInt64}

theorem length_pickedPlaces (time : UInt64) : (pickedPlaces time).length = 12 := by
  simp [pickedPlaces]

theorem lt_of_mem_pickedPlaces {place : Nat} (member : place ∈ pickedPlaces time) :
    place < 12 := by
  have digit (value place : Nat) : digitOfSix value place < 10 := Nat.mod_lt _ (by decide)
  rcases List.mem_append.mp member with first | second
  · rcases List.mem_map.mp first with ⟨index, -, rfl⟩
    exact Nat.lt_trans (digit ..) (by decide)
  · rcases List.mem_map.mp second with ⟨index, -, rfl⟩
    exact Nat.add_lt_add_right (digit ..) 2

/-- What is picked stands at the places of a key in the order of the places. -/
theorem map_some_of_obfuscateKey (obfuscated : obfuscateKey key time = .ok picked) :
    picked.toList.map some = (pickedPlaces time).map (key.toList[·]?) := by
  rw [obfuscateKey_eq] at obfuscated
  rcases exists_of_bind_eq_ok obfuscated with ⟨characters, pickedAll, built⟩
  rcases Except.ok.inj built with rfl
  rw [String.toList_ofList]
  have each := congrArg (List.map Except.toOption) (mapM_eq_ok_iff.mp pickedAll)
  rw [List.map_map, List.map_map] at each
  refine Eq.trans (Eq.symm each) ?_
  apply List.map_congr_left
  intro position inPositions
  rw [Function.comp_apply, keyCharacter]
  cases key.toList[position]? <;> rfl

theorem length_obfuscateKey (obfuscated : obfuscateKey key time = .ok picked) :
    picked.toList.length = 12 := by
  have same := congrArg List.length (map_some_of_obfuscateKey obfuscated)
  rwa [List.length_map, List.length_map, length_pickedPlaces] at same

theorem exists_obfuscateKey_of_lt (inside : ∀ place ∈ pickedPlaces time, place < key.length) :
    ∃ picked, obfuscateKey key time = .ok picked := by
  have each : ∀ place ∈ pickedPlaces time, ∃ c, keyCharacter key.toList place = .ok c := by
    intro place member
    have inKey : place < key.toList.length := by
      rw [String.length_toList]
      exact inside place member
    exact ⟨key.toList[place], by rw [keyCharacter, List.getElem?_eq_getElem inKey]⟩
  rcases exists_mapM_eq_ok each with ⟨picked, pickedAll⟩
  exact ⟨String.ofList picked, by rw [obfuscateKey_eq, pickedAll]; rfl⟩

/-- Every time can pick its characters from a key of twelve. -/
theorem exists_obfuscateKey (long : 12 ≤ key.length) (time : UInt64) :
    ∃ picked, obfuscateKey key time = .ok picked :=
  exists_obfuscateKey_of_lt fun _ member => Nat.lt_of_lt_of_le (lt_of_mem_pickedPlaces member) long

theorem getElem?_of_obfuscateKey (obfuscated : obfuscateKey key time = .ok picked) {place : Nat}
    (before : place < 6) :
    picked.toList[place]? = key.toList[digitOfSix (recentPart time) place]? ∧
      picked.toList[place + 6]? = key.toList[digitOfSix (recentPart time / 2) place + 2]? := by
  have whole := map_some_of_obfuscateKey obfuscated
  have long := length_obfuscateKey obfuscated
  rw [pickedPlaces, List.map_append] at whole
  have inFirst : place < picked.toList.length := by omega
  have inSecond : place + 6 < picked.toList.length := by omega
  constructor
  · have there := congrArg (·[place]?) whole
    simpa [List.getElem?_append, before, inFirst] using there
  · have there := congrArg (·[place + 6]?) whole
    simpa [List.getElem?_append, before, inSecond] using there

theorem lt_length_of_obfuscateKey (obfuscated : obfuscateKey key time = .ok picked) {place : Nat}
    (before : place < 6) :
    digitOfSix (recentPart time) place < key.length ∧
      digitOfSix (recentPart time / 2) place + 2 < key.length := by
  have long := length_obfuscateKey obfuscated
  rcases getElem?_of_obfuscateKey obfuscated before with ⟨first, second⟩
  have inFirst : place < picked.toList.length := by omega
  have inSecond : place + 6 < picked.toList.length := by omega
  rw [List.getElem?_eq_getElem inFirst] at first
  rw [List.getElem?_eq_getElem inSecond] at second
  rw [← String.length_toList]
  exact ⟨(List.getElem?_eq_some_iff.mp first.symm).1, (List.getElem?_eq_some_iff.mp second.symm).1⟩

theorem exists_obfuscateKey_iff :
    (∃ picked, obfuscateKey key time = .ok picked) ↔ ReachesPicked key time := by
  constructor
  · intro obfuscated place before
    rcases obfuscated with ⟨picked, obfuscated⟩
    exact lt_length_of_obfuscateKey obfuscated before
  · intro reaches
    apply exists_obfuscateKey_of_lt
    intro position member
    rcases List.mem_append.mp member with first | second
    · rcases List.mem_map.mp first with ⟨place, inRange, rfl⟩
      exact (reaches place (List.mem_range.mp inRange)).1
    · rcases List.mem_map.mp second with ⟨place, inRange, rfl⟩
      exact (reaches place (List.mem_range.mp inRange)).2

theorem eq_shortApiKey_of_obfuscateKey {error : ApiError}
    (failed : obfuscateKey key time = .error error) : error = .shortApiKey := by
  rw [obfuscateKey_eq] at failed
  rcases eq_or_exists_of_bind_eq_error failed with notPicked | ⟨characters, -, built⟩
  · rcases exists_of_mapM_eq_error notPicked with ⟨position, -, missing⟩
    rw [keyCharacter] at missing
    split at missing
    · cases missing
    · exact (Except.error.inj missing).symm
  · cases built

end Places

/-- A key is obfuscated just if it has a character at each place that the time picks, and these are
the characters then, in their order. A key that is too short is a failed authentication. -/
theorem obfuscateKey_picks (key : String) (time : UInt64) :
    (ReachesPicked key time →
      ∃ picked, obfuscateKey key time = .ok picked ∧ picked.length = 12 ∧
        ∀ place < 6,
          picked.toList[place]? = key.toList[digitOfSix (recentPart time) place]? ∧
            picked.toList[place + 6]? =
              key.toList[digitOfSix (recentPart time / 2) place + 2]?) ∧
      (¬ReachesPicked key time →
        obfuscateKey key time = .error .shortApiKey ∧
          ApiError.shortApiKey.kind = .authentication) ∧
      (12 ≤ key.length → ReachesPicked key time) ∧
      ∀ other, recentPart other = recentPart time →
        obfuscateKey key other = obfuscateKey key time := by
  refine ⟨?_, ?_, ?_, ?_⟩
  · intro reaches
    rcases exists_obfuscateKey_iff.mpr reaches with ⟨picked, obfuscated⟩
    refine ⟨picked, obfuscated, ?_, fun place before => getElem?_of_obfuscateKey obfuscated before⟩
    rw [← String.length_toList]
    exact length_obfuscateKey obfuscated
  · intro short
    cases obfuscated : obfuscateKey key time with
    | ok picked => exact absurd (exists_obfuscateKey_iff.mp ⟨picked, obfuscated⟩) short
    | error error =>
        rcases eq_shortApiKey_of_obfuscateKey obfuscated with rfl
        exact ⟨rfl, rfl⟩
  · intro long
    exact exists_obfuscateKey_iff.mp (exists_obfuscateKey long time)
  · intro other same
    rw [obfuscateKey_eq, obfuscateKey_eq, pickedPlaces, pickedPlaces, same]

/-- Three letters are enough for a time that ends in six zeros, and too few for others. -/
theorem obfuscateKey_picks_greek :
    ReachesPicked "αβγ" 7000000 ∧ ¬ReachesPicked "αβγ" 7000003 ∧
      (∃ picked, obfuscateKey "αβγ" 7000000 = .ok picked ∧ picked.toList[5]? = some 'α' ∧
        picked.toList[6]? = some 'γ') ∧
      obfuscateKey "αβγ" 7000003 = .error .shortApiKey ∧
      ReachesPicked "αβγδεζηθικλμ" 7000003 ∧
      obfuscateKey "αβγ" 1700000000000 = obfuscateKey "αβγ" 7000000 := by
  have reaches : ReachesPicked "αβγ" 7000000 := by decide
  have short : ¬ReachesPicked "αβγ" 7000003 := by decide
  rcases obfuscateKey_picks "αβγ" 7000000 with ⟨picks, -, -, others⟩
  rcases picks reaches with ⟨picked, obfuscated, -, places⟩
  refine ⟨reaches, short, ?_, ?_, ?_, ?_⟩
  · exact ⟨picked, obfuscated, (places 5 (by decide)).1, (places 0 (by decide)).2⟩
  · exact ((obfuscateKey_picks "αβγ" 7000003).2.1 short).1
  · exact (obfuscateKey_picks "αβγδεζηθικλμ" 7000003).2.2.1 (by decide)
  · exact others 1700000000000 (by decide)

end CloudAdmin
