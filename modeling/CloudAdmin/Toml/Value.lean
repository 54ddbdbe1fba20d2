/-!
# Values in settings files

A settings file consists of tables: keys with values, where a value may again be a table or an
array. A table remembers how it was written, because that decides whether a later line may add to
it. Numbers and points in time that no setting uses are checked but not kept.
-/

namespace CloudAdmin.Toml

/-- How a table was written. -/
inductive Origin where
  /-- By a header of its own. -/
  | explicit
  /-- In braces. -/
  | inline
  /-- As a step on the way to the table of a header. -/
  | passed
  /-- As a step in a key with dots. -/
  | dotted
deriving DecidableEq, Repr

/-- A value in a settings file. -/
inductive Value where
  | text (text : String)
  | integer (value : Int)
  | float
  | boolean (value : Bool)
  | time
  | array (items : List Value)
  | table (origin : Origin) (entries : List (String × Value))
  /-- A list of tables that headers add to, the last one first. -/
  | tables (elements : List (List (String × Value)))
deriving Inhabited

abbrev Entries := List (String × Value)

end CloudAdmin.Toml
