import CloudAdmin.Proofs.Json.RoundTrip
import CloudAdmin.Proofs.Sandbox.Serving
import CloudAdmin.Proofs.Services.Collection

/-!
# Ledgers

A ledger is what a client should see of all collections together: a finite map from collections and
ids to records. The calls on single records are explained by what they do to a ledger, without
regard to paths, styles and status codes. A ledger represents what a sandbox holds if the sandbox
has just its records at the places of the collections. Main statement: to write a record and to
remove it are the same for a ledger and for the sandbox that it represents, and touch nothing else.
-/

namespace CloudAdmin

/-- The records under the ids of all collections, and the ids that were given out. Only these are
in use. -/
structure Ledger where
  record? : Collection → UInt64 → Option Record
  given : List UInt64
  used : ∀ {collection id record}, record? collection id = some record → id ∈ given

namespace Ledger

/-- A ledger without records. -/
def empty : Ledger where
  record? _ _ := none
  given := []
  used := nofun

/-- A ledger with a record under an id of a collection. -/
def put (collection : Collection) (id : UInt64) (record : Record) (ledger : Ledger) : Ledger where
  record? other key :=
    if other = collection ∧ key = id then some record else ledger.record? other key
  given := id :: ledger.given
  used := by
    intro other key found
    split
    · rintro -
      rename_i same
      exact same.2 ▸ List.mem_cons_self ..
    · intro present
      exact List.mem_cons_of_mem _ (ledger.used present)

/-- A ledger with nothing under an id of a collection. -/
def erase (collection : Collection) (id : UInt64) (ledger : Ledger) : Ledger where
  record? other key :=
    if other = collection ∧ key = id then none else ledger.record? other key
  given := ledger.given
  used := by
    intro other key found
    split
    · rintro ⟨⟩
    · exact ledger.used

end Ledger

/-- An id as the records of a scope hold it: a number in ZIA and ZCON, a numeral elsewhere. -/
def Scope.idValue (id : UInt64) : Scope → Json.Value
  | .product .zidentity | .management _ | .userConfiguration => .string (Text.decimal id.toNat)
  | .product _ => .ofWord id

/-- A record with its id set as the collection has it. -/
def Collection.withId (id : UInt64) (record : Record) (collection : Collection) : Record :=
  record.insert "id" (collection.scope.idValue id)

/-- A call about a single record. -/
inductive RecordCall where
  | add (resource : Resource) (body : Record)
  | get (resource : Resource) (id : UInt64)
  | update (resource : Resource) (id : UInt64) (body : Record)
  | delete (resource : Resource) (id : UInt64)

theorem Scope.idValue_style (id : UInt64) (scope : Scope) :
    scope.style.idValue id = scope.idValue id := by
  cases scope with
  | product service => cases service <;> rfl
  | management version => rfl
  | userConfiguration => rfl

theorem Collection.readsBack_withId (collection : Collection) {body : Record}
    (readsBack : body.toValue.ReadsBack Json.nestingLimit) (id : UInt64) :
    (collection.withId id body).toValue.ReadsBack Json.nestingLimit := by
  have written {room : Nat} : (collection.scope.idValue id).ReadsBack room := by
    rw [← Scope.idValue_style]
    cases collection.scope.style with
    | zia => exact .ofWord id
    | zdx => exact .ofWord id
    | zpa => exact .string _
    | zidentity => exact .string _
    | results => exact .string _
  cases readsBack with
  | object ascending readBack =>
      refine .object (ascending.insert "id" _) fun field member => ?_
      rcases Assoc.mem_insert member with rfl | earlier
      · exact written
      · exact readBack field earlier

namespace RecordCall

/-- The resource that a call is about. -/
def resource : RecordCall → Resource
  | .add resource _ | .get resource _ | .update resource _ _ | .delete resource _ => resource

/-- The id that a call is about. -/
def id? : RecordCall → Option UInt64
  | .add _ _ => none
  | .get _ id | .update _ id _ | .delete _ id => some id

/-- Whether a call adds a record. -/
def isAdd : RecordCall → Bool
  | .add _ _ => true
  | .get _ _ | .update _ _ _ | .delete _ _ => false

/-- The record that a call sends. -/
def body? : RecordCall → Option Record
  | .add _ body | .update _ _ body => some body
  | .get _ _ | .delete _ _ => none

/-- The call as a client makes it. -/
def toCall : RecordCall → ServiceCall
  | .add resource body => .add resource body
  | .get resource id => .get resource (Text.decimal id.toNat)
  | .update resource id body => .update resource (Text.decimal id.toNat) body
  | .delete resource id => .delete resource (Text.decimal id.toNat)

end RecordCall

/-- What a call on a ledger yields, and the ledger after it. A record that is added gets an id that
was never given out before. -/
inductive Ledger.Yields : RecordCall → Ledger → Except ApiError Answer → Ledger → Prop where
  | added {resource : Resource} {body : Record} {id : UInt64} {ledger : Ledger}
      (new : id ∉ ledger.given) :
      Yields (.add resource body) ledger (.ok (.record (resource.collection.withId id body)))
        (ledger.put resource.collection id (resource.collection.withId id body))
  | got {resource : Resource} {id : UInt64} {record : Record} {ledger : Ledger}
      (present : ledger.record? resource.collection id = some record) :
      Yields (.get resource id) ledger (.ok (.record record)) ledger
  | updated {resource : Resource} {id : UInt64} {record body : Record} {ledger : Ledger}
      (present : ledger.record? resource.collection id = some record) :
      Yields (.update resource id body) ledger
        (.ok (.record (resource.collection.withId id body)))
        (ledger.put resource.collection id (resource.collection.withId id body))
  | deleted {resource : Resource} {id : UInt64} {record : Record} {ledger : Ledger}
      (present : ledger.record? resource.collection id = some record) :
      Yields (.delete resource id) ledger (.ok .done) (ledger.erase resource.collection id)
  | notFound {call : RecordCall} {id : UInt64} {ledger : Ledger} (named : call.id? = some id)
      (absent : ledger.record? call.resource.collection id = none) :
      Yields call ledger (.error .notFound) ledger

/-- What some calls on a ledger yield, one after the other, and the ledger after them. -/
inductive Ledger.Follows :
    List RecordCall → Ledger → List (Except ApiError Answer) → Ledger → Prop where
  | nil {ledger : Ledger} : Follows [] ledger [] ledger
  | cons {call : RecordCall} {calls : List RecordCall} {answer : Except ApiError Answer}
      {answers : List (Except ApiError Answer)} {ledger next final : Ledger}
      (first : Yields call ledger answer next) (rest : Follows calls next answers final) :
      Follows (call :: calls) ledger (answer :: answers) final

namespace Sandbox

section Storing

variable {state : State} {path : String} {id : UInt64} {value : Json.Value}

theorem items_put (other : String) :
    (state.put path id value).items other =
      if other = path then Assoc.insert id value (state.items path) else state.items other := by
  by_cases samePath : other = path
  · simp [State.items, State.items?, State.put, State.setItems, samePath]
  · simp [State.items, State.items?, State.put, State.setItems,
      Assoc.find?_insert_of_ne samePath, samePath]

theorem items_remove (other : String) :
    (state.remove path id).items other =
      if other = path then Assoc.erase id (state.items path) else state.items other := by
  by_cases samePath : other = path
  · simp [State.items, State.items?, State.remove, State.setItems, samePath]
  · simp [State.items, State.items?, State.remove, State.setItems,
      Assoc.find?_insert_of_ne samePath, samePath]

theorem find?_items_put (other : String) (key : UInt64) :
    Assoc.find? key ((state.put path id value).items other) =
      if other = path ∧ key = id then some value else Assoc.find? key (state.items other) := by
  rw [items_put]
  by_cases samePath : other = path
  · by_cases sameId : key = id
    · simp [samePath, sameId]
    · simp [samePath, sameId, Assoc.find?_insert_of_ne sameId]
  · simp [samePath]

theorem find?_items_remove (other : String) (key : UInt64) :
    Assoc.find? key ((state.remove path id).items other) =
      if other = path ∧ key = id then none else Assoc.find? key (state.items other) := by
  rw [items_remove]
  by_cases samePath : other = path
  · by_cases sameId : key = id
    · simp [samePath, sameId]
    · simp [samePath, sameId, Assoc.find?_erase_of_ne sameId]
  · simp [samePath]

end Storing

/-- Whether a ledger says what a sandbox holds for a customer. The texts of all records are read
back, and no id beyond the last one was given out. -/
structure Represents (customer : Option String) (ledger : Ledger) (contents : Contents) : Prop where
  stored : ∀ collection, collection.scope ∈ Scope.administered → ∀ id,
    Assoc.find? id ((State.ofContents contents).items (collection.place customer)) =
      (ledger.record? collection id).map Record.toValue
  readBack : ∀ collection id record, ledger.record? collection id = some record →
    record.toValue.ReadsBack Json.nestingLimit
  counted : ∀ id ∈ ledger.given, id ≤ contents.lastId

section Writing

variable {customer : Option String} {ledger : Ledger} {state : State} {collection : Collection}
  {id : UInt64} {record : Record}

/-- A record is written into a ledger and into the sandbox that it represents. -/
theorem Represents.put (represents : Represents customer ledger state.contents)
    (member : collection.scope ∈ Scope.administered)
    (readsBack : record.toValue.ReadsBack Json.nestingLimit) (atMost : id ≤ state.lastId) :
    Represents customer (ledger.put collection id record)
      (state.put (collection.place customer) id record.toValue).contents where
  stored := by
    intro other isScope key
    change Assoc.find? key ((state.put (collection.place customer) id record.toValue).items _) = _
    have same : other.place customer = collection.place customer ↔ other = collection :=
      ⟨Collection.eq_of_place_eq isScope member, fun same => same ▸ rfl⟩
    simp only [find?_items_put, same, Ledger.put]
    split
    · rfl
    · exact represents.stored other isScope key
  readBack := by
    intro other key found present
    simp only [Ledger.put] at present
    split at present
    · rcases Option.some.inj present with rfl
      exact readsBack
    · exact represents.readBack other key found present
  counted := by
    intro key given
    rcases List.mem_cons.mp given with rfl | earlier
    · exact atMost
    · exact represents.counted key earlier

/-- A record is removed from a ledger and from the sandbox that it represents. -/
theorem Represents.remove (represents : Represents customer ledger state.contents)
    (member : collection.scope ∈ Scope.administered) :
    Represents customer (ledger.erase collection id)
      (state.remove (collection.place customer) id).contents where
  stored := by
    intro other isScope key
    change Assoc.find? key ((state.remove (collection.place customer) id).items _) = _
    have same : other.place customer = collection.place customer ↔ other = collection :=
      ⟨Collection.eq_of_place_eq isScope member, fun same => same ▸ rfl⟩
    simp only [find?_items_remove, same, Ledger.erase]
    split
    · rfl
    · exact represents.stored other isScope key
  readBack := by
    intro other key found present
    simp only [Ledger.erase] at present
    split at present
    · cases present
    · exact represents.readBack other key found present
  counted := represents.counted

theorem Represents.allocate (represents : Represents customer ledger state.contents)
    (grows : state.lastId ≤ state.lastId + 1) :
    Represents customer ledger (state.allocate).2.contents where
  stored := represents.stored
  readBack := represents.readBack
  counted := fun key given => UInt64.le_trans (represents.counted key given) grows

end Writing

end Sandbox

end CloudAdmin
