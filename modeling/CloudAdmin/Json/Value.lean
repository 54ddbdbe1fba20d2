import CloudAdmin.Assoc
import CloudAdmin.Decimal.Binary64
import CloudAdmin.Text.Numeral

/-!
# JSON values

A number keeps the distinction that its numeral makes: a whole number that fits a 64-bit word is
kept exactly, everything else is a double. The members of an object are an association list in
ascending key order, so two objects with the same members are the same value.
-/

namespace CloudAdmin.Json

/-- A number: a non-negative word, a negative word or a double. -/
inductive Number where
  | unsigned (value : UInt64)
  | negative (value : Int64)
  | double (value : Decimal.Binary64)
deriving DecidableEq, Repr

inductive Value where
  | null
  | bool (value : Bool)
  | number (value : Number)
  | string (text : String)
  | array (items : List Value)
  | object (fields : List (String × Value))
deriving Inhabited, Repr

/-- The members of an object in ascending key order. -/
abbrev Fields := List (String × Value)

/-- The word that a number is, if it is a non-negative one. -/
def Number.toWord64? : Number → Option UInt64
  | .unsigned value => some value
  | _ => none

/-- The signed word that a number is, if it is one. -/
def Number.toInt64? : Number → Option Int64
  | .unsigned value =>
      if value.toNat < Text.int64Bound then some (Int64.ofNat value.toNat) else none
  | .negative value => some value
  | .double _ => none

namespace Value

/-- A non-negative whole number. -/
def ofWord (value : UInt64) : Value :=
  .number (.unsigned value)

/-- The member of an object; nothing has members but an object. -/
def field? (key : String) : Value → Option Value
  | .object fields => Assoc.find? key fields
  | _ => none

def toString? : Value → Option String
  | .string text => some text
  | _ => none

def toArray? : Value → Option (List Value)
  | .array items => some items
  | _ => none

def toObject? : Value → Option Fields
  | .object fields => some fields
  | _ => none

def isObject (value : Value) : Bool :=
  value.toObject?.isSome

/-- An object with the given members; of two with one key the later wins. -/
def ofFields (members : List (String × Value)) : Value :=
  .object (Assoc.ofList members)

/-- Nothing but an object has members. -/
theorem field?_eq_some_iff {key : String} {value item : Value} :
    value.field? key = some item ↔
      ∃ fields, value = .object fields ∧ Assoc.find? key fields = some item := by
  constructor
  · intro found
    cases value with
    | object fields => exact ⟨fields, rfl, found⟩
    | _ => cases found
  · rintro ⟨fields, rfl, found⟩
    exact found

theorem bind_toString?_eq_some_iff {held : Option Value} {text : String} :
    held.bind toString? = some text ↔ held = some (.string text) := by
  constructor
  · intro isText
    cases held with
    | none => cases isText
    | some value =>
        cases value with
        | string text' => rw [Option.some.inj isText]
        | _ => cases isText
  · rintro rfl
    rfl

end Value

end CloudAdmin.Json
