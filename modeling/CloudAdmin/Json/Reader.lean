import CloudAdmin.Json.Token

/-!
# Reading JSON

A value is read from tokens by a machine with a stack of the containers that are still open, one
token at a time. Containers may be nested up to a limit. A second machine only checks that there
is a value and skips it: it has no limit, and it passes over strings and numbers that are well
written but have no value.
-/

namespace CloudAdmin.Json

/-- A container that is open around the value being read: the items before it in reverse, or the
members before it and its own key. -/
inductive Frame where
  | array (items : List Value)
  | object (fields : Fields) (key : String)

/-- What may come next inside the innermost open container. -/
inductive Expecting where
  | value
  | firstItem
  | afterItem (items : List Value)
  | firstKey
  | key (fields : Fields)
  | colon (fields : Fields) (key : String)
  | afterMember (fields : Fields)

/-- What a token leads to. -/
inductive Progress where
  | refused
  | continues (frames : List Frame) (expecting : Expecting)
  | complete (value : Value)

/-- How deeply arrays and objects may be nested in a text. -/
def nestingLimit : Nat := 127

/-- Put a finished value into the innermost open container. -/
def finish (value : Value) : List Frame → Progress
  | [] => .complete value
  | .array items :: frames => .continues frames (.afterItem (value :: items))
  | .object fields key :: frames => .continues frames (.afterMember (Assoc.insert key value fields))

/-- Begin a value with a token, inside the given open containers. -/
def begin (limit : Nat) (frames : List Frame) : Token → Progress
  | .null => finish .null frames
  | .bool value => finish (.bool value) frames
  | .number (some value) => finish (.number value) frames
  | .string (some text) => finish (.string text) frames
  | .openBracket => if frames.length < limit then .continues frames .firstItem else .refused
  | .openBrace => if frames.length < limit then .continues frames .firstKey else .refused
  | _ => .refused

def step (limit : Nat) (frames : List Frame) : Expecting → Token → Progress
  | .value, token => begin limit frames token
  | .firstItem, .closeBracket => finish (.array []) frames
  | .firstItem, token => begin limit (.array [] :: frames) token
  | .afterItem items, .comma => .continues (.array items :: frames) .value
  | .afterItem items, .closeBracket => finish (.array items.reverse) frames
  | .afterItem _, _ => .refused
  | .firstKey, .closeBrace => finish (.object []) frames
  | .firstKey, .string (some key) => .continues frames (.colon [] key)
  | .firstKey, _ => .refused
  | .key fields, .string (some key) => .continues frames (.colon fields key)
  | .key _, _ => .refused
  | .colon fields key, .colon => .continues (.object fields key :: frames) .value
  | .colon _ _, _ => .refused
  | .afterMember fields, .comma => .continues frames (.key fields)
  | .afterMember fields, .closeBrace => finish (.object fields) frames
  | .afterMember _, _ => .refused

/-- Read one value from the front of a token list. -/
def readFrom (limit : Nat) : List Frame → Expecting → List Token → Option (Value × List Token)
  | _, _, [] => none
  | frames, expecting, token :: rest =>
      match step limit frames expecting token with
      | .refused => none
      | .continues frames' expecting' => readFrom limit frames' expecting' rest
      | .complete value => some (value, rest)

/-- Read one value, nested up to a limit, from the front of a token list. -/
def readValue (limit : Nat) (tokens : List Token) : Option (Value × List Token) :=
  readFrom limit [] .value tokens

/-- The value that a text consists of. -/
def parse? (text : String) : Option Value :=
  match readValue nestingLimit (scan text) with
  | some (value, []) => some value
  | _ => none

/-- What may come next inside the innermost container that is being skipped. -/
inductive Skipping where
  | value
  | firstItem
  | afterItem
  | firstKey
  | key
  | colon
  | afterMember

/-- The kind of a container that is being skipped. -/
inductive Container where
  | array
  | object

/-- Leave a skipped value; none if nothing is open around it. -/
def afterSkipped : List Container → Option Skipping
  | [] => none
  | .array :: _ => some .afterItem
  | .object :: _ => some .afterMember

/-- What a token leads to while skipping. -/
inductive SkipProgress where
  | refused
  | continues (open_ : List Container) (expecting : Skipping)
  | complete

def skipFinish (containers : List Container) : SkipProgress :=
  match afterSkipped containers with
  | none => .complete
  | some expecting => .continues containers expecting

/-- Begin a skipped value with a token. -/
def skipBegin (containers : List Container) : Token → SkipProgress
  | .null => skipFinish containers
  | .bool _ => skipFinish containers
  | .number _ => skipFinish containers
  | .string _ => skipFinish containers
  | .openBracket => .continues (.array :: containers) .firstItem
  | .openBrace => .continues (.object :: containers) .firstKey
  | _ => .refused

def skipStep (containers : List Container) : Skipping → Token → SkipProgress
  | .value, token => skipBegin containers token
  | .firstItem, .closeBracket => skipFinish containers.tail
  | .firstItem, token => skipBegin containers token
  | .afterItem, .comma => .continues containers .value
  | .afterItem, .closeBracket => skipFinish containers.tail
  | .afterItem, _ => .refused
  | .firstKey, .closeBrace => skipFinish containers.tail
  | .firstKey, .string _ => .continues containers .colon
  | .firstKey, _ => .refused
  | .key, .string _ => .continues containers .colon
  | .key, _ => .refused
  | .colon, .colon => .continues containers .value
  | .colon, _ => .refused
  | .afterMember, .comma => .continues containers .key
  | .afterMember, .closeBrace => skipFinish containers.tail
  | .afterMember, _ => .refused

/-- Skip one value at the front of a token list. -/
def skipFrom : List Container → Skipping → List Token → Option (List Token)
  | _, _, [] => none
  | containers, expecting, token :: rest =>
      match skipStep containers expecting token with
      | .refused => none
      | .continues containers' expecting' => skipFrom containers' expecting' rest
      | .complete => some rest

/-- Skip one value at the front of a token list. -/
def skipValue (tokens : List Token) : Option (List Token) :=
  skipFrom [] .value tokens

/-- The name that a text consists of: a string, or an object whose one key is the name and whose
value is null. -/
def parseName? (text : String) : Option String :=
  match scan text with
  | [.string (some name)] => some name
  | [.openBrace, .string (some name), .colon, .null, .closeBrace] => some name
  | _ => none

end CloudAdmin.Json
