/-!
# Association lists in ascending key order

The members of a JSON object and the items of a sandbox collection are both finite maps whose
order is visible from outside: objects are printed and collections are listed by ascending key.
They are therefore kept as lists of pairs sorted by key, and `insert` and `erase` preserve that
order. The view of such a list is `find?`; each operation comes with its equation on that view.
-/

namespace CloudAdmin.Assoc

universe u v

variable {Key : Type u} {Item : Type v}

/-- The item stored under a key. -/
def find? [DecidableEq Key] (key : Key) : List (Key × Item) → Option Item
  | [] => none
  | (other, item) :: rest => if key = other then some item else find? key rest

def contains [DecidableEq Key] (key : Key) (entries : List (Key × Item)) : Bool :=
  (find? key entries).isSome

/-- Store an item under a key, replacing an earlier item and keeping ascending order. -/
def insert [DecidableEq Key] [LT Key] [DecidableLT Key] (key : Key) (item : Item) :
    List (Key × Item) → List (Key × Item)
  | [] => [(key, item)]
  | (other, present) :: rest =>
      if key = other then (key, item) :: rest
      else if key < other then (key, item) :: (other, present) :: rest
      else (other, present) :: insert key item rest

def erase [DecidableEq Key] (key : Key) : List (Key × Item) → List (Key × Item)
  | [] => []
  | (other, item) :: rest => if key = other then erase key rest else (other, item) :: erase key rest

/-- Sort arbitrary pairs by key; of two pairs with one key the later wins. -/
def ofList [DecidableEq Key] [LT Key] [DecidableLT Key] (pairs : List (Key × Item)) :
    List (Key × Item) :=
  pairs.foldl (fun entries pair => insert pair.1 pair.2 entries) []

@[simp]
theorem find?_nil [DecidableEq Key] (key : Key) :
    find? key ([] : List (Key × Item)) = none := rfl

@[simp]
theorem find?_insert_self [DecidableEq Key] [LT Key] [DecidableLT Key] (key : Key) (item : Item)
    (entries : List (Key × Item)) : find? key (insert key item entries) = some item := by
  induction entries with
  | nil => simp [insert, find?]
  | cons entry rest ih =>
    obtain ⟨other, present⟩ := entry
    by_cases same : key = other
    · simp [insert, find?, same]
    · by_cases below : key < other
      · simp [insert, find?, same, below]
      · simp [insert, find?, same, below, ih]

@[simp]
theorem find?_insert_of_ne [DecidableEq Key] [LT Key] [DecidableLT Key] {key sought : Key}
    (different : sought ≠ key) (item : Item) (entries : List (Key × Item)) :
    find? sought (insert key item entries) = find? sought entries := by
  induction entries with
  | nil => simp [insert, find?, different]
  | cons entry rest ih =>
    obtain ⟨other, present⟩ := entry
    by_cases same : key = other
    · subst same
      simp [insert, find?, different]
    · by_cases below : key < other
      · simp [insert, find?, same, below, different]
      · simp only [insert, same, below, if_false, find?, ih]

@[simp]
theorem find?_erase_self [DecidableEq Key] (key : Key) (entries : List (Key × Item)) :
    find? key (erase key entries) = none := by
  induction entries with
  | nil => rfl
  | cons entry rest ih =>
    obtain ⟨other, present⟩ := entry
    by_cases same : key = other
    · subst same
      simp [erase, ih]
    · simp [erase, find?, same, ih]

@[simp]
theorem find?_erase_of_ne [DecidableEq Key] {key sought : Key} (different : sought ≠ key)
    (entries : List (Key × Item)) : find? sought (erase key entries) = find? sought entries := by
  induction entries with
  | nil => rfl
  | cons entry rest ih =>
    obtain ⟨other, present⟩ := entry
    by_cases same : key = other
    · subst same
      simp [erase, find?, different, ih]
    · by_cases hit : sought = other
      · simp [erase, find?, same, hit]
      · simp [erase, find?, same, hit, ih]

end CloudAdmin.Assoc
