import CloudAdmin.ApiError
import CloudAdmin.Json.Reader
import CloudAdmin.Text.Numeral

/-!
# Records

Whatever a product administers comes back as a record: a JSON object whose fields are passed
through untouched. The accessors only look at the presence and the shape of a field, and a record
sent to a product may hold fields that this library knows nothing about.
-/

namespace CloudAdmin

/-- An object of some product. -/
structure Record where
  fields : Json.Fields
deriving Inhabited, Repr

namespace Record

def empty : Record := ⟨[]⟩

def toValue (record : Record) : Json.Value :=
  .object record.fields

def text (record : Record) : String :=
  record.toValue.text

/-- The record that a value is. -/
def ofValue : Json.Value → Except ApiError Record
  | .object fields => .ok ⟨fields⟩
  | other => .error (.unexpectedJson .object other)

/-- The record that a text consists of. -/
def ofText (text : String) : Except ApiError Record :=
  match Json.parse? text with
  | some (.object fields) => .ok ⟨fields⟩
  | _ => .error .malformedJson

def find? (key : String) (record : Record) : Option Json.Value :=
  Assoc.find? key record.fields

def insert (key : String) (value : Json.Value) (record : Record) : Record :=
  ⟨Assoc.insert key value record.fields⟩

def erase (key : String) (record : Record) : Record :=
  ⟨Assoc.erase key record.fields⟩

/-- The id of a record as text. Some products use numbers and some use strings. -/
def id? (record : Record) : Option String :=
  match record.find? "id" with
  | some (.string text) => some text
  | some (.number number) => some number.text
  | _ => none

/-- The text in a field. -/
def string? (key : String) (record : Record) : Option String :=
  (record.find? key).bind Json.Value.toString?

def name? (record : Record) : Option String :=
  record.string? "name"

/-- The integer in a field, which may be written as a text. -/
def int64? (key : String) (record : Record) : Option Int64 :=
  match record.find? key with
  | some (.number number) => number.toInt64?
  | some (.string text) => Text.toInt64? text
  | _ => none

def bool? (key : String) (record : Record) : Option Bool :=
  match record.find? key with
  | some (.bool value) => some value
  | _ => none

def record? (key : String) (record : Record) : Option Record :=
  ((record.find? key).bind Json.Value.toObject?).map Record.mk

/-- The records in a field that holds an array; its other items are passed over. -/
def records (key : String) (record : Record) : List Record :=
  match record.find? key with
  | some (.array items) => items.filterMap fun item => item.toObject?.map Record.mk
  | _ => []

/-- The value of a field without which an operation cannot proceed. -/
def require (key : String) (record : Record) : Except ApiError Json.Value :=
  match record.find? key with
  | none | some .null => .error (.missingField key)
  | some value => .ok value

@[simp]
theorem ofValue_toValue (record : Record) : ofValue record.toValue = .ok record := rfl

@[simp]
theorem find?_insert_self (key : String) (value : Json.Value) (record : Record) :
    (record.insert key value).find? key = some value :=
  Assoc.find?_insert_self key value record.fields

@[simp]
theorem find?_insert_of_ne {key sought : String} (different : sought ≠ key) (value : Json.Value)
    (record : Record) : (record.insert key value).find? sought = record.find? sought :=
  Assoc.find?_insert_of_ne different value record.fields

end Record

end CloudAdmin
