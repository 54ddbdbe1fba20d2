import CloudAdmin.Toml.Document
import CloudAdmin.Toml.Scalar
import CloudAdmin.Toml.Text

/-!
# Reading settings files

A settings file is read line by line. A line is empty, a comment, a header in brackets or a key with
a value. Only arrays and strings with three quotes may go on over several lines. Arrays and tables
in braces may be nested up to a limit.
-/

namespace CloudAdmin.Toml

/-- How deeply arrays and tables in braces may be nested. -/
def nestingLimit : Nat := 79

/-- A text without blanks, line breaks and comments at its start. `inComment` says whether the start
is inside a comment. -/
def skipGaps : Bool → List Char → List Char
  | _, [] => []
  | _, '\n' :: rest => skipGaps false rest
  | _, '\r' :: '\n' :: rest => skipGaps false rest
  | true, c :: rest => if isPrintable c then skipGaps true rest else c :: rest
  | false, c :: rest =>
      if isBlank c then skipGaps false rest
      else if c == '#' then skipGaps true rest
      else c :: rest

/-- A reader of a value at the start of a text. -/
abbrev ValueReader := List Char → Option (Value × List Char)

/-- Read the items of an array up to its closing bracket, as many as a bound allows. -/
def readItems? (readItem : ValueReader) : Nat → List Char → Option (List Value × List Char)
  | 0, _ => none
  | bound + 1, text =>
      match skipGaps false text with
      | ']' :: rest => some ([], rest)
      | start => do
          let (item, rest) ← readItem start
          match skipGaps false rest with
          | ',' :: more =>
              let (items, final) ← readItems? readItem bound more
              return (item :: items, final)
          | ']' :: final => return ([item], final)
          | _ => none

def readPair? (readItem : ValueReader) (text : List Char) :
    Option (List String × Value × List Char) := do
  let (key, rest) ← readKey? text
  match rest with
  | '=' :: more =>
      let (value, final) ← readItem (skipBlanks more)
      return (key, value, final)
  | _ => none

/-- Add a pair to a table in braces. -/
def addToInline? (key : List String) (value : Value) (entries : Entries) : Option Entries := do
  let (path, last) ← splitKey? key
  addDotted last value false path entries

/-- Read the pairs of a table in braces up to its closing brace, as many as a bound allows. -/
def readInline? (readItem : ValueReader) : Nat → Entries → List Char →
    Option (Entries × List Char)
  | 0, _, _ => none
  | bound + 1, entries, text => do
      let (key, value, rest) ← readPair? readItem text
      let added ← addToInline? key value entries
      match skipBlanks rest with
      | ',' :: more => readInline? readItem bound added more
      | '\x7d' :: final => return (added, final)
      | _ => none

/-- Read a value, with at most so many arrays and tables inside each other. -/
def readValue? : Nat → ValueReader
  | depth, text =>
      match text with
      | '[' :: rest =>
          match depth with
          | 0 => none
          | inner + 1 =>
              (readItems? (readValue? inner) text.length rest).map fun (items, final) =>
                (.array items, final)
      | '\x7b' :: rest =>
          match depth with
          | 0 => none
          | inner + 1 =>
              match skipBlanks rest with
              | '\x7d' :: final => some (.table .inline [], final)
              | start =>
                  (readInline? (readValue? inner) text.length [] start).map fun (entries, final) =>
                    (.table .inline entries, final)
      | c :: _ =>
          if c = '"' ∨ c = '\x27' then
            (readString? text).map fun (string, final) => (.text string, final)
          else readScalar? text
      | [] => none

/-- The text after the end of a line, before which there may be blanks and a comment. -/
def endLine? (text : List Char) : Option (List Char) :=
  let uncommented := match skipBlanks text with
    | '#' :: rest => rest.dropWhile isPrintable
    | rest => rest
  match uncommented with
  | [] => some []
  | '\n' :: rest => some rest
  | '\r' :: '\n' :: rest => some rest
  | _ => none

def readHeader? (closing : List Char) (text : List Char) : Option (List String × List Char) := do
  let (key, rest) ← readKey? text
  if closing.isPrefixOf rest then
    let final ← endLine? (rest.drop closing.length)
    return (key, final)
  else none

/-- Read one line that is neither empty nor a comment. -/
def readLineInto? (document : Document) : List Char → Option (Document × List Char)
  | '[' :: '[' :: rest => do
      let (header, final) ← readHeader? [']', ']'] rest
      return (← document.beginElement? header, final)
  | '[' :: rest => do
      let (header, final) ← readHeader? [']'] rest
      return (← document.beginTable? header, final)
  | text => do
      let (key, value, rest) ← readPair? (readValue? nestingLimit) text
      let final ← endLine? rest
      return (← document.addPair? key value, final)

/-- Read the lines of a settings file, as many as a bound allows. -/
def readLines? : Nat → Document → List Char → Option Document
  | 0, _, _ => none
  | bound + 1, document, text =>
      match skipBlanks text with
      | [] => some document
      | start =>
          match endLine? start with
          | some rest => readLines? bound document rest
          | none => do
              let (document', rest) ← readLineInto? document start
              readLines? bound document' rest

/-- Read a settings file. -/
def parse? (text : String) : Option Entries :=
  let characters := match text.toList with
    | '\uFEFF' :: rest => rest
    | characters => characters
  (readLines? (characters.length + 1) .empty characters).map Document.entries

end CloudAdmin.Toml
