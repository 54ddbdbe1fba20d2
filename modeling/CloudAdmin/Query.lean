import CloudAdmin.Url.Form

/-!
# Queries

What a caller asks of a list: parameters in the order in which they were given, and possibly more
than one of a name. A parameter is never overwritten.
-/

namespace CloudAdmin

/-- The parameters of a call. -/
abbrev Query := Url.Pairs

namespace Query

def param (name value : String) (query : Query) : Query :=
  query ++ [(name, value)]

def search (term : String) (query : Query) : Query :=
  query.param "search" term

/-- The first value of a parameter. -/
def value? (name : String) (query : Query) : Option String :=
  (query.find? (·.1 == name)).map Prod.snd

/-- The last value of a parameter. -/
def lastValue? (name : String) (query : Query) : Option String :=
  (query.reverse.find? (·.1 == name)).map Prod.snd

def has (name : String) (query : Query) : Bool :=
  query.any (·.1 == name)

end Query

end CloudAdmin
