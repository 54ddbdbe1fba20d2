import CloudAdmin.Query
import CloudAdmin.Text.Numeral

/-!
# Time windows

Measurements are asked for over a window of time, given in seconds. A bound that the caller gives
takes precedence over that of the window.
-/

namespace CloudAdmin

/-- A range of time in seconds. -/
structure TimeWindow where
  start : UInt64
  finish : UInt64
deriving DecidableEq, Repr

namespace TimeWindow

/-- How long the default window is: two hours. -/
def defaultLength : UInt64 := 7200

/-- The window that ends at a time given in milliseconds. -/
def endingAt (now : UInt64) : TimeWindow :=
  let finish := now / 1000
  ⟨if finish < defaultLength then 0 else finish - defaultLength, finish⟩

/-- A query with a parameter added unless it is given. -/
def addMissing (name : String) (value : UInt64) (query : Query) : Query :=
  if Query.has name query then query else Query.param name (Text.decimal value.toNat) query

/-- A query with the bounds of a window added where they are missing. -/
def apply (query : Query) (window : TimeWindow) : Query :=
  addMissing "to" window.finish (addMissing "from" window.start query)

end TimeWindow

end CloudAdmin
