import CloudAdmin.ApiError

/-!
# Key obfuscation

One login flow does not send its API key. It sends twelve characters of the key, picked by the last
six digits of the time and by the six digits of half their value, the latter two places further on.
-/

namespace CloudAdmin

/-- The last six digits of a time. -/
def recentDigits (time : UInt64) : List Char :=
  let now := Text.paddedDecimal 6 time.toNat
  now.drop (now.length - 6)

/-- The six digits of half the number that a numeral denotes. -/
def halvedDigits (numeral : List Char) : Except ApiError (List Char) :=
  match Text.parseWord64 numeral with
  | .ok value => .ok (Text.paddedDecimal 6 (value >>> 1).toNat)
  | .error fault => .error (.unreadableTime fault)

/-- The character of a key so many places behind the one that a digit names. -/
def pickKeyCharacter (key : List Char) (offset : Nat) (digit : Char) : Except ApiError Char :=
  match (Text.digit? digit).bind fun place => key[place + offset]? with
  | some c => .ok c
  | none => .error .shortApiKey

/-- The characters of a key that a time picks. -/
def obfuscateKey (key : String) (time : UInt64) : Except ApiError String := do
  let recent := recentDigits time
  let halved ← halvedDigits recent
  let front ← recent.mapM (pickKeyCharacter key.toList 0)
  let back ← halved.mapM (pickKeyCharacter key.toList 2)
  return String.ofList (front ++ back)

end CloudAdmin
