import CloudAdmin.ServiceCall

/-!
# Listings of resources

A listing says what is offered for a resource: which of the common operations there are, and how the
resource is called when there is one record of it and when there are many. The name of a call is
made of both.
-/

namespace CloudAdmin

/-- An operation that many resources have in common. -/
inductive Verb where
  | list
  | page
  | get
  | find
  | add
  | update
  | delete
deriving DecidableEq, Repr

/-- What is offered for a resource. -/
structure Listing where
  resource : Resource
  plural : String
  singular : String
  verbs : List Verb

/-- What a caller gives to one of the common operations. -/
structure Arguments where
  query : Query
  id : String
  name : String
  body : Record

namespace Verb

/-- The operations on a resource that can be changed. -/
def editing : List Verb := [.get, .add, .update, .delete]

/-- The operations on a resource that can only be looked at. -/
def reading : List Verb := [.list, .get, .find]

/-- All operations but reading a single page. -/
def common : List Verb := [.list, .get, .find, .add, .update, .delete]

def all : List Verb := .page :: common

def callName (listing : Listing) : Verb → String
  | .list => "list_" ++ listing.plural
  | .page => "list_" ++ listing.plural ++ "_page"
  | .get => "get_" ++ listing.singular
  | .find => "find_" ++ listing.singular ++ "_by_name"
  | .add => "add_" ++ listing.singular
  | .update => "update_" ++ listing.singular
  | .delete => "delete_" ++ listing.singular

def call (resource : Resource) (arguments : Arguments) : Verb → ServiceCall
  | .list => .list resource arguments.query
  | .page => .page resource arguments.query
  | .get => .get resource arguments.id
  | .find => .find resource arguments.name
  | .add => .add resource arguments.body
  | .update => .update resource arguments.id arguments.body
  | .delete => .delete resource arguments.id

end Verb

namespace Listing

/-- The call of a given name, if a listing offers it. -/
def call? (name : String) (arguments : Arguments) (listing : Listing) : Option ServiceCall :=
  (listing.verbs.find? fun verb => verb.callName listing == name).map fun verb =>
    verb.call listing.resource arguments

end Listing

end CloudAdmin
