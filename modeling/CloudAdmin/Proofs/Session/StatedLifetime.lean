import Mathlib.Algebra.Order.Field.Rat
import Mathlib.Data.Rat.Cast.Defs
import Mathlib.Tactic.Linarith
import Mathlib.Tactic.NormNum
import CloudAdmin.Proofs.Session.LoginAnswer

/-!
# The lifetime that an answer states

Three flows may state how long a token lives, as a number of seconds. Main statement: a token
expires when its answer says just if the number is written as a whole number that fits a word.
Whatever else is written counts as an hour, so the token is kept too long exactly if the number is
less than that and no word.
-/

namespace CloudAdmin

namespace Json.Numeral

/-- The exact value of a numeral. -/
def exactValue (numeral : Numeral) : ℚ :=
  let fraction := numeral.fraction.getD []
  let magnitude : ℚ := (Text.digitsValue numeral.whole +
    Text.digitsValue fraction / 10 ^ fraction.length) * 10 ^ (numeral.exponent.getD 0)
  if numeral.negative then -magnitude else magnitude

/-- Whether a numeral writes a word as a whole number, without a fraction and without an exponent.
-/
structure IsWord (numeral : Numeral) : Prop where
  positive : numeral.negative = false
  noFraction : numeral.fraction = none
  noExponent : numeral.exponent = none
  fits : Text.digitsValue numeral.whole < UInt64.size

instance (numeral : Numeral) : Decidable numeral.IsWord :=
  decidable_of_iff (numeral.negative = false ∧ numeral.fraction = none ∧
      numeral.exponent = none ∧ Text.digitsValue numeral.whole < UInt64.size)
    ⟨fun ⟨positive, noFraction, noExponent, fits⟩ => ⟨positive, noFraction, noExponent, fits⟩,
      fun isWord => ⟨isWord.positive, isWord.noFraction, isWord.noExponent, isWord.fits⟩⟩

variable {numeral : Numeral} {number : Number}

theorem IsWord.exactValue (isWord : numeral.IsWord) :
    numeral.exactValue = Text.digitsValue numeral.whole := by
  simp [Numeral.exactValue, isWord.positive, isWord.noFraction, isWord.noExponent,
    Text.digitsValue]

/-- Digits are taken to the last one only if they fit. -/
theorem fits_of_takeFitting {significand taken : Nat} {digits : List Char}
    (start : significand < UInt64.size)
    (all : (takeFitting significand taken digits).2 = taken + digits.length) :
    digits.foldl (fun value digit => 10 * value + Text.digitValue digit) significand <
      UInt64.size := by
  induction digits generalizing significand taken with
  | nil => exact start
  | cons digit rest ih =>
      rw [takeFitting] at all
      split at all
      · rename_i extended
        apply ih extended
        rw [all, List.length_cons]
        omega
      · rw [List.length_cons] at all
        simp only at all
        omega

theorem toWord64?_doubleOf? {negative : Bool} {significand : Nat} {exponent : Int}
    (denotes : doubleOf? negative significand exponent = some number) :
    number.toWord64? = none := by
  rcases Option.map_eq_some_iff.mp denotes with ⟨magnitude, -, rfl⟩
  rfl

/-- A numeral denotes a word just if it writes one. -/
theorem toWord64?_of_value? (denotes : numeral.value? = some number) :
    number.toWord64? =
      if numeral.IsWord then some (UInt64.ofNat (Text.digitsValue numeral.whole)) else none := by
  by_cases isWord : numeral.IsWord
  · have taken := takeFitting_of_fits 0 0 numeral.whole isWord.fits
    have word : numeral.value? =
        some (.unsigned (UInt64.ofNat (Text.digitsValue numeral.whole))) := by
      simp only [value?, taken, isWord.noFraction, isWord.noExponent, isWord.positive]
      simp [Text.digitsValue]
    rw [word] at denotes
    rcases Option.some.inj denotes with rfl
    rw [if_pos isWord, Number.toWord64?]
  · rw [if_neg isWord]
    unfold value? at denotes
    simp only at denotes
    split at denotes
    · rename_i noFraction noExponent
      split at denotes
      · exact toWord64?_doubleOf? denotes
      · rename_i whole
        split at denotes
        · rename_i positive
          have all : (takeFitting 0 0 numeral.whole).2 = 0 + numeral.whole.length := by omega
          have fits := fits_of_takeFitting (by decide) all
          exact absurd ⟨by simpa using positive, noFraction, noExponent, fits⟩ isWord
        · split at denotes
          · rcases Option.some.inj denotes with rfl
            rfl
          · exact toWord64?_doubleOf? denotes
    · exact toWord64?_doubleOf? denotes

end Json.Numeral

namespace Token

/-- The margin is kept in exact numbers: no time is so late that a token is fresh again. -/
theorem isFresh_iff {token : Token} {clock : UInt64} :
    token.isFresh clock = true ↔ clock.toNat + 60000 < token.expiresAt.toNat := by
  have margin : refreshMargin.toNat = 60000 := rfl
  have greatest : token.expiresAt.toNat ≤ Saturating.greatest.toNat :=
    Nat.le_of_lt_succ token.expiresAt.toNat_lt
  rw [isFresh, decide_eq_true_eq, UInt64.lt_iff_toNat_lt, Saturating.toNat_add, margin]
  omega

/-- Near the time at which a token expires it is no longer used. -/
theorem not_isFresh_of_le {token : Token} {clock : UInt64}
    (passed : token.expiresAt.toNat ≤ clock.toNat + 60000) :
    token.isFresh clock = false := by
  rw [← Bool.not_eq_true, isFresh_iff]
  omega

end Token

namespace Authenticator

/-- Whether an answer to a flow brings a token and states by a numeral how many seconds it lives:
the number in its field is the one that the numeral denotes. -/
inductive StatesLifetime (response : Http.Response) (flow : LoginFlow) (value : String)
    (numeral : Json.Numeral) : Prop where
  | intro {name : String} {found : Json.Found} {number : Json.Number}
      (told : tokenBody? flow = some (.bearer name))
      (isOfShape : Json.IsOfShape (tokenShape name) (Json.scan response.body) found)
      (holds : Assoc.find? name found = some (.string value))
      (stated : Assoc.find? "expires_in" found = some (.number number))
      (denotes : numeral.value? = some number)

/-- The seconds that a numeral is taken for. -/
def secondsOf (numeral : Json.Numeral) : Nat :=
  if numeral.IsWord then Text.digitsValue numeral.whole else 3600

section Lifetimes

variable {authenticator : Authenticator} {response : Http.Response} {now : UInt64}
  {value : String} {numeral : Json.Numeral} {number : Json.Number}

theorem toNat_lifetime (denotes : numeral.value? = some number) :
    (lifetime (some (.number number))).toNat =
      min (1000 * secondsOf numeral) Saturating.greatest.toNat := by
  rw [lifetime, Json.Numeral.toWord64?_of_value? denotes, secondsOf]
  by_cases isWord : numeral.IsWord
  · have thousand : (1000 : UInt64).toNat = 1000 := rfl
    rw [if_pos isWord, if_pos isWord, lifetime.statedOr, Saturating.toNat_mul, thousand,
      UInt64.toNat_ofNat_of_lt' isWord.fits, Nat.mul_comm]
  · rw [if_neg isWord, if_neg isWord, lifetime.statedOr]
    decide

/-- When a token expires whose answer states a lifetime. -/
theorem readLogin_of_statesLifetime (success : response.isSuccess = true)
    (states : StatesLifetime response authenticator.credentials.flow value numeral) :
    ∃ expiresAt, authenticator.readLogin response now = .ok ⟨value, .bearer, expiresAt⟩ ∧
      expiresAt.toNat = min (now.toNat + 1000 * secondsOf numeral) Saturating.greatest.toNat := by
  cases states with
  | @intro name found number told isOfShape holds stated denotes =>
      have optional : found.optional? "expires_in" = some (.number number) := by
        simp [Json.Found.optional?, stated]
      refine ⟨Saturating.add now (lifetime (some (.number number))), ?_, ?_⟩
      · rw [readLogin_of_bearer success told isOfShape holds, optional]
      · rw [Saturating.toNat_add, toNat_lifetime denotes]
        omega

/-- A token expires in time if its lifetime is written as a word, if it is an hour at least, or if
there are no times after it. -/
theorem expiry_le_iff (start greatest : Nat) :
    ((min (start + 1000 * secondsOf numeral) greatest : Nat) : ℚ) ≤
        start + 1000 * numeral.exactValue ↔
      numeral.IsWord ∨ 3600 ≤ numeral.exactValue ∨
        (greatest : ℚ) ≤ start + 1000 * numeral.exactValue := by
  rw [Nat.cast_min, min_le_iff]
  push_cast
  by_cases isWord : numeral.IsWord
  · rw [secondsOf, if_pos isWord, isWord.exactValue]
    simp [isWord]
  · rw [secondsOf, if_neg isWord]
    simp only [isWord, false_or]
    apply or_congr_left
    constructor
    · intro inTime
      push_cast at inTime
      linarith
    · intro anHour
      push_cast
      linarith

end Lifetimes

/-- A token whose answer states a lifetime expires after as many seconds if they are written as a
word, and after an hour if they are written in any other way. So it expires in time unless they are
less than an hour and no word, and a token that expires in time is not used again from a minute
before its time on: a session logs in anew. -/
theorem readLogin_keeps_to_stated_lifetime (authenticator : Authenticator)
    (response : Http.Response) (now : UInt64) (value : String) (numeral : Json.Numeral)
    (success : 200 ≤ response.status ∧ response.status < 300)
    (states : StatesLifetime response authenticator.credentials.flow value numeral) :
    ∃ expiresAt : UInt64, authenticator.readLogin response now = .ok ⟨value, .bearer, expiresAt⟩ ∧
      expiresAt.toNat = min (now.toNat + 1000 * secondsOf numeral) (2 ^ 64 - 1) ∧
      ((expiresAt.toNat : ℚ) ≤ now.toNat + 1000 * numeral.exactValue ↔
        numeral.IsWord ∨ 3600 ≤ numeral.exactValue ∨
          ((2 ^ 64 - 1 : Nat) : ℚ) ≤ now.toNat + 1000 * numeral.exactValue) ∧
      ∀ (World : Type) (session : Session World) (world : World),
        (expiresAt.toNat : ℚ) ≤ now.toNat + 1000 * numeral.exactValue →
        now.toNat + 1000 * numeral.exactValue ≤
          ((session.host.sessionClock world).1.toNat : ℚ) + 60000 →
        session.token.perform ⟨some ⟨value, .bearer, expiresAt⟩, world⟩ =
          (session.login (session.host.sessionClock world).1).perform
            ⟨some ⟨value, .bearer, expiresAt⟩, (session.host.sessionClock world).2⟩ := by
  have isSuccess : response.isSuccess = true := by
    simpa [Http.Response.isSuccess] using success
  rcases readLogin_of_statesLifetime isSuccess states with ⟨expiresAt, read, expiry⟩
  refine ⟨expiresAt, read, expiry, ?_, ?_⟩
  · rw [expiry]
    exact expiry_le_iff now.toNat _
  · intro World session world inTime passed
    have later : (expiresAt.toNat : ℚ) ≤ (session.host.sessionClock world).1.toNat + 60000 :=
      inTime.trans passed
    have stale : Token.isFresh (session.host.sessionClock world).1
        ⟨value, .bearer, expiresAt⟩ = false := by
      apply Token.not_isFresh_of_le
      exact_mod_cast later
    apply Session.perform_token_of_stale
    rw [Option.filter_some, if_neg (by simp [stale])]

/-- An answer with a token and its lifetime as it is written. -/
def statingAnswer (seconds : String) : Http.Response :=
  ⟨200, [], "\x7b\"access_token\":\"tok\",\"expires_in\":" ++ seconds ++ "\x7d"⟩

theorem statesLifetime_of_scan {seconds : String} {numeral : Json.Numeral} {number : Json.Number}
    (scanned : Json.scan (statingAnswer seconds).body =
      [.openBrace, .string (some "access_token"), .colon, .string (some "tok"), .comma,
        .string (some "expires_in"), .colon, .number (some number), .closeBrace])
    (denotes : numeral.value? = some number) :
    StatesLifetime (statingAnswer seconds) .oneApi "tok" numeral := by
  have token : Json.Adds (tokenShape "access_token") [] ("access_token", [.string (some "tok")])
      [("access_token", .string "tok")] := .field rfl rfl (.text "tok")
  have lifetime : Json.Adds (tokenShape "access_token") [("access_token", .string "tok")]
      ("expires_in", [.number (some number)])
      [("expires_in", .number number), ("access_token", .string "tok")] :=
    .field rfl rfl (.optional rfl)
  have complete : Json.IsComplete (tokenShape "access_token")
      [("expires_in", .number number), ("access_token", .string "tok")] := by
    simp [Json.IsComplete, tokenShape, Assoc.contains, Assoc.find?]
  have isOfShape : Json.IsOfShape (tokenShape "access_token")
      (Json.scan (statingAnswer seconds).body)
      [("expires_in", .number number), ("access_token", .string "tok")] := by
    rw [scanned]
    exact .object (.next token (.next lifetime .done)) complete
  exact .intro rfl isOfShape rfl rfl denotes

/-- Sixty seconds, as a whole number. -/
def sixty : Json.Numeral :=
  ⟨false, ['6', '0'], none, none⟩

/-- Sixty seconds, with a fraction. -/
def sixtyWithFraction : Json.Numeral :=
  ⟨false, ['6', '0'], some ['0'], none⟩

/-- A customer whose clock always shows one time, and to whom nothing is answered. -/
def customerAt (clock : UInt64) : Session Traffic :=
  ⟨Transport.host (fun _ => clock) fun _ => .error .noSessionCookie, gatewayCustomer⟩

/-- After sixty seconds that are written as a word, a session logs in anew. -/
theorem readLogin_keeps_to_stated_lifetime_of_sixty :
    gatewayCustomer.readLogin (statingAnswer "60") 0 = .ok ⟨"tok", .bearer, 60000⟩ ∧
      ((customerAt 0).token.perform
        ⟨some ⟨"tok", .bearer, 60000⟩, ⟨[], 0⟩⟩).2.world.sent.length = 1 := by
  have states : StatesLifetime (statingAnswer "60") .oneApi "tok" sixty :=
    statesLifetime_of_scan rfl rfl
  have isWord : sixty.IsWord := ⟨rfl, rfl, rfl, by decide⟩
  have value : sixty.exactValue = 60 := isWord.exactValue
  rcases readLogin_keeps_to_stated_lifetime gatewayCustomer (statingAnswer "60") 0 "tok" sixty
    (by decide) states with ⟨expiresAt, read, expiry, inTime, anew⟩
  have same : expiresAt = 60000 := by
    rw [← UInt64.toNat_inj, expiry]
    decide
  subst same
  refine ⟨read, ?_⟩
  rw [anew Traffic (customerAt 0) ⟨[], 0⟩ (inTime.mpr (.inl isWord))
    (by rw [value]; norm_num [customerAt, Transport.host])]
  decide +kernel

/-- Sixty seconds that are written with a fraction are taken for an hour, and the token is still
used when almost all of the hour has passed. -/
theorem token_outlives_sixty_with_fraction :
    StatesLifetime (statingAnswer "60.0") .oneApi "tok" sixtyWithFraction ∧
      sixtyWithFraction.exactValue = 60 ∧
      gatewayCustomer.readLogin (statingAnswer "60.0") 0 = .ok ⟨"tok", .bearer, 3600000⟩ ∧
      ¬((3600000 : UInt64).toNat : ℚ) ≤ (0 : UInt64).toNat + 1000 * sixtyWithFraction.exactValue ∧
      ((customerAt 3500000).token.perform ⟨some ⟨"tok", .bearer, 3600000⟩, ⟨[], 0⟩⟩).1 =
        .ok ⟨"tok", .bearer, 3600000⟩ := by
  have value : sixtyWithFraction.exactValue = 60 := by
    have whole : Text.digitsValue ['6', '0'] = 60 := rfl
    have fraction : Text.digitsValue ['0'] = 0 := rfl
    simp [Json.Numeral.exactValue, sixtyWithFraction, whole, fraction]
  refine ⟨statesLifetime_of_scan rfl rfl, value, eq_ok_of_toOption (by decide +kernel), ?_, rfl⟩
  have late : (3600000 : UInt64).toNat = 3600000 := rfl
  rw [value, late]
  norm_num

end Authenticator

end CloudAdmin
