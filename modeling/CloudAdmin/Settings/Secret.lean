import CloudAdmin.Text.Quoted

/-!
# Secrets

A secret is a text that is never shown, only handed to whom it is meant for.
-/

namespace CloudAdmin

/-- A text that is never shown. -/
structure Secret where
  /-- The text, for whom it is meant for. -/
  expose : String
deriving DecidableEq

namespace Secret

/-- What is shown in place of a secret. -/
def describe (_ : Secret) : String := "<redacted>"

end Secret

/-- A value as settings show it. -/
inductive SettingValue where
  | plain (text : String)
  | secret (secret : Secret)
  | optional (text : Option String)
deriving DecidableEq

namespace SettingValue

/-- The text that shows a value. -/
def describe : SettingValue → String
  | .plain text => Text.quoted text
  | .secret hidden => hidden.describe
  | .optional none => "None"
  | .optional (some text) => String.join ["Some(", Text.quoted text, ")"]

end SettingValue

/-- A name with fields as settings show them. -/
def describeFields (name : String) (fields : List (String × String)) : String :=
  let shown := fields.map fun field => String.join [field.1, ": ", field.2]
  String.join [name, " \x7b ", String.intercalate ", " shown, " \x7d"]

end CloudAdmin
