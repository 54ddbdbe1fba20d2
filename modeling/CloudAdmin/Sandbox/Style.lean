import CloudAdmin.Json.Value
import CloudAdmin.Text.Case
import CloudAdmin.Text.Numeral

/-!
# Styles of answers

The products differ in how they write ids and in how they hand out lists. Which product a path
belongs to shows in the path itself.
-/

namespace CloudAdmin.Sandbox

/-- A way of writing ids and handing out lists. -/
inductive Style where
  | zia
  | zpa
  | zidentity
  | zdx
  | results
deriving DecidableEq, Repr

namespace Style

/-- The style of the product that a path belongs to. -/
def ofPath (path : String) : Style :=
  let mentions := fun part : String => Text.occursIn part.toList path.toList
  if mentions "/mgmtconfig/" || mentions "/userconfig/" then .zpa
  else if mentions "/ziam/" then .zidentity
  else if mentions "/zdx/" then .zdx
  else if mentions "/easm/" then .results
  else .zia

def idValue (id : UInt64) : Style → Json.Value
  | .zia | .zdx => .ofWord id
  | _ => .string (Text.decimal id.toNat)

end Style

end CloudAdmin.Sandbox
