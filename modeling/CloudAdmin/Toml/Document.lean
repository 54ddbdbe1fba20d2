import CloudAdmin.Assoc
import CloudAdmin.Toml.Value

/-!
# Building the tables of a settings file

The lines of a settings file add to its tables one after the other. Nothing may be given twice: a
key has one value, a table has one header, and a table that was completed in one way is not extended
in another. A header may pass through any table that is not in braces; a key with dots may only pass
through tables that came about on the way to others, and has to end in one that was written with
dots.
-/

namespace CloudAdmin.Toml

/-- Change the value under a key, or give it one. -/
def alter (key : String) (change : Option Value → Option Value) : Entries → Option Entries
  | [] => (change none).map fun value => [(key, value)]
  | (other, value) :: rest =>
      if key = other then (change (some value)).map fun changed => (other, changed) :: rest
      else (alter key change rest).map ((other, value) :: ·)

/-- Change the table at the end of a path of headers. Missing tables on the way are made. -/
def alterAlong (change : Entries → Option Entries) : List String → Entries → Option Entries
  | [], entries => change entries
  | key :: path, entries =>
      alter key
        (fun
          | none => (alterAlong change path []).map (.table .passed)
          | some (.table .inline _) => none
          | some (.table origin inner) => (alterAlong change path inner).map (.table origin)
          | some (.tables (last :: earlier)) =>
              (alterAlong change path last).map fun changed => .tables (changed :: earlier)
          | some _ => none)
        entries

/-- Put a value under a key that has none. -/
def add (key : String) (value : Value) : Entries → Option Entries :=
  alter key fun
    | none => some value
    | some _ => none

/-- Put a value under a key with dots, whose earlier parts lead from table to table. `closed` says
whether the table reached so far may not take the value itself. -/
def addDotted (key : String) (value : Value) : Bool → List String → Entries → Option Entries
  | closed, [], entries => if closed then none else add key value entries
  | _, step :: path, entries =>
      alter step
        (fun
          | none => (addDotted key value false path []).map (.table .dotted)
          | some (.table .explicit _) | some (.table .inline _) => none
          | some (.table origin inner) =>
              (addDotted key value (origin != .dotted) path inner).map (.table origin)
          | some (.tables (last :: earlier)) =>
              (addDotted key value true path last).map fun changed => .tables (changed :: earlier)
          | some _ => none)
        entries

/-- The last part of a key and the parts before it. -/
def splitKey? (key : List String) : Option (List String × String) :=
  key.getLast?.map fun last => (key.dropLast, last)

/-- A settings file as far as it is read: its tables, and the table that lines add to. -/
structure Document where
  entries : Entries
  current : List String

namespace Document

/-- A settings file of which nothing is read. -/
def empty : Document := ⟨[], []⟩

/-- Add a key and its value to the current table. -/
def addPair? (key : List String) (value : Value) (document : Document) : Option Document := do
  let (path, last) ← splitKey? key
  let entries ← alterAlong (addDotted last value false path) document.current document.entries
  return { document with entries := entries }

/-- Begin the table of a header. -/
def beginTable? (header : List String) (document : Document) : Option Document := do
  let (path, last) ← splitKey? header
  let open_ : Option Value → Option Value := fun
    | none => some (.table .explicit [])
    | some (.table .passed inner) => some (.table .explicit inner)
    | some _ => none
  let entries ← alterAlong (alter last open_) path document.entries
  return ⟨entries, header⟩

/-- Begin the next table of a list of tables. -/
def beginElement? (header : List String) (document : Document) : Option Document := do
  let (path, last) ← splitKey? header
  let open_ : Option Value → Option Value := fun
    | none => some (.tables [[]])
    | some (.tables elements) => some (.tables ([] :: elements))
    | some _ => none
  let entries ← alterAlong (alter last open_) path document.entries
  return ⟨entries, header⟩

end Document

end CloudAdmin.Toml
