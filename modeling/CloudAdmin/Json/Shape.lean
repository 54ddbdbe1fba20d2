import CloudAdmin.Json.Reader

/-!
# JSON of a known shape

Login requests and login answers are JSON texts with fixed fields. They are read in one pass from
the left: an object gives its fields in any order, unknown members are skipped whatever they hold,
and a known field may be given once; an array gives all the fields in their order and nothing
else. An optional field may be missing from an object, and null means the same as missing.

Reading stops at the first fault, which is of one of two kinds: the text is not JSON, or it is but
does not have the shape. The kind decides how a server refuses a request.
-/

namespace CloudAdmin.Json

/-- Why a text was not read. -/
inductive Fault where
  /-- The text is not JSON at all. -/
  | unreadable
  /-- The text does not have the expected shape. -/
  | misfit
deriving DecidableEq, Repr

/-- What a field holds. -/
inductive FieldKind where
  | text
  | natural
  | optional
deriving DecidableEq, Repr

structure FieldShape where
  name : String
  kind : FieldKind
deriving DecidableEq, Repr

/-- What has been read so far: the fields found, with their values. -/
abbrev Found := List (String × Value)

/-- The fault of a token where something else was wanted: an unreadable token stays unreadable. -/
def Token.unexpected : Token → Fault
  | .null | .bool _ | .number (some _) | .string (some _) | .openBracket | .openBrace => .misfit
  | _ => .unreadable

def readField (kind : FieldKind) (tokens : List Token) : Except Fault (Value × List Token) :=
  match kind, tokens with
  | _, [] => .error .unreadable
  | .text, .string (some text) :: rest => .ok (.string text, rest)
  | .natural, .number (some (.unsigned value)) :: rest => .ok (.ofWord value, rest)
  | .optional, tokens =>
      match readValue (nestingLimit - 1) tokens with
      | some result => .ok result
      | none => .error .unreadable
  | _, token :: _ => .error token.unexpected

/-- Check that the fields an object has to give are there. -/
def checkComplete (shape : List FieldShape) (found : Found) : Except Fault Found :=
  if shape.all fun field => field.kind == .optional || Assoc.contains field.name found then
    .ok found
  else .error .misfit

/-- Read one member of an object whose key has just been read. -/
def readMember (shape : List FieldShape) (found : Found) (key : String) (tokens : List Token) :
    Except Fault (Found × List Token) :=
  match shape.find? (·.name == key) with
  | none =>
      match tokens with
      | .colon :: rest =>
          match skipValue rest with
          | some remaining => .ok (found, remaining)
          | none => .error .unreadable
      | _ => .error .unreadable
  | some field =>
      if Assoc.contains key found then .error .misfit
      else
        match tokens with
        | .colon :: rest => do
            let (value, remaining) ← readField field.kind rest
            return ((key, value) :: found, remaining)
        | _ => .error .unreadable

/-- Read the members of an object after its first one, as many as a bound allows. -/
def readMembers (shape : List FieldShape) : Nat → Found → List Token →
    Except Fault (Found × List Token)
  | 0, _, _ => .error .unreadable
  | bound + 1, found, tokens =>
      match tokens with
      | .closeBrace :: rest => do return (← checkComplete shape found, rest)
      | .comma :: .string (some key) :: rest => do
          let (found', remaining) ← readMember shape found key rest
          readMembers shape bound found' remaining
      | _ => .error .unreadable

/-- Read an object after its opening brace. -/
def readObject (shape : List FieldShape) (tokens : List Token) :
    Except Fault (Found × List Token) :=
  match tokens with
  | .closeBrace :: rest => do return (← checkComplete shape [], rest)
  | .string (some key) :: rest => do
      let (found, remaining) ← readMember shape [] key rest
      readMembers shape remaining.length found remaining
  | _ => .error .unreadable

/-- Read the fields of an array, each of them after a comma unless it is the first. -/
def readPositions : List FieldShape → Bool → List Token → Except Fault (Found × List Token)
  | [], _, .closeBracket :: rest => .ok ([], rest)
  | [], _, _ => .error .unreadable
  | _ :: _, _, [] => .error .unreadable
  | _ :: _, _, .closeBracket :: _ => .error .misfit
  | field :: fields, false, .comma :: rest => do
      let (value, remaining) ← readField field.kind rest
      let (found, final) ← readPositions fields false remaining
      return ((field.name, value) :: found, final)
  | _ :: _, false, _ => .error .unreadable
  | field :: fields, true, tokens => do
      let (value, remaining) ← readField field.kind tokens
      let (found, final) ← readPositions fields false remaining
      return ((field.name, value) :: found, final)

/-- Read a text of a known shape. -/
def readShape (shape : List FieldShape) (text : String) : Except Fault Found := do
  let (found, rest) ← match scan text with
    | [] => .error .unreadable
    | .openBrace :: rest => readObject shape rest
    | .openBracket :: rest => readPositions shape true rest
    | token :: _ => .error token.unexpected
  if rest.isEmpty then return found else .error .unreadable

namespace Found

def text? (name : String) (found : Found) : Option String :=
  (Assoc.find? name found).bind Value.toString?

def natural? (name : String) (found : Found) : Option UInt64 :=
  match Assoc.find? name found with
  | some (.number number) => number.toWord64?
  | _ => none

/-- The value of an optional field; null is none. -/
def optional? (name : String) (found : Found) : Option Value :=
  match Assoc.find? name found with
  | some .null => none
  | value => value

end Found

end CloudAdmin.Json
