import CloudAdmin.Assoc
import CloudAdmin.Json.Value

/-!
# What a sandbox keeps

A sandbox stands in for all products at once. It keeps the tokens that it issued and that are still
good, the records of every collection by their ids, the last id that it gave out, and how often it
issued a token. Where tokens come from is left open: a supply gives a text for each login.
-/

namespace CloudAdmin.Sandbox

/-- The records of a collection in ascending order of their ids. -/
abbrev Items := List (UInt64 × Json.Value)

/-- The token of each login. -/
abbrev TokenSupply := Nat → String

/-- What a sandbox keeps. -/
structure State where
  tokens : List String
  /-- The collections by their paths. -/
  store : List (String × Items)
  lastId : UInt64
  logins : Nat

namespace State

/-- A sandbox that was never used. -/
def empty : State := ⟨[], [], 0, 0⟩

/-- Whether a token is good. -/
def accepts (token : String) (state : State) : Bool :=
  state.tokens.contains token

def issue (supply : TokenSupply) (state : State) : String × State :=
  let token := supply state.logins
  (token, { state with tokens := token :: state.tokens, logins := state.logins + 1 })

def revoke (token : String) (state : State) : State :=
  { state with tokens := state.tokens.filter (· != token) }

def revokeAll (state : State) : State :=
  { state with tokens := [] }

/-- The records of a collection, if there ever were any. -/
def items? (path : String) (state : State) : Option Items :=
  Assoc.find? path state.store

def items (path : String) (state : State) : Items :=
  (state.items? path).getD []

def setItems (path : String) (items : Items) (state : State) : State :=
  { state with store := Assoc.insert path items state.store }

def put (path : String) (id : UInt64) (value : Json.Value) (state : State) : State :=
  state.setItems path (Assoc.insert id value (state.items path))

def remove (path : String) (id : UInt64) (state : State) : State :=
  state.setItems path (Assoc.erase id (state.items path))

def allocate (state : State) : UInt64 × State :=
  let id := state.lastId + 1
  (id, { state with lastId := id })

end State

end CloudAdmin.Sandbox
