/-!
# TOML documents

A document is a tree of tables. A table remembers how it came to be, because
that decides what may still be added to it: a header opens a table once, a
dotted key adds only to tables that dotted keys have made, and nothing is added
to a table that was written as a value.

Only texts are read, so every other plain value is kept without its content.
-/

namespace Scaffold

namespace Toml

/-- How a table came to be. -/
inductive Source where
  /-- A header of its own, or braces. -/
  | stated
  /-- A header of a table below it. -/
  | implied
  /-- A dotted key. -/
  | dotted
  deriving DecidableEq, Repr

end Toml

inductive Toml where
  | text (s : String)
  /-- A number, a truth value or a date. -/
  | plain
  | list (items : List Toml)
  /-- A table written as a value. -/
  | inline (fields : List (String × Toml))
  | table (source : Toml.Source) (fields : List (String × Toml))
  /-- A list of tables, one for each header. -/
  | tables (rows : List (List (String × Toml)))
  deriving Inhabited

namespace Toml

abbrev Fields := List (String × Toml)

/-- Gives another value to a key that is present. -/
def replaceAt (key : String) (value : Toml) (fields : Fields) : Fields :=
  fields.map fun (k, v) => if k = key then (k, value) else (k, v)

/-- Changes the last row of a list of tables. -/
def changeLast (f : Fields → Option Fields) (rows : List Fields) : Option (List Fields) :=
  match rows.getLast? with
  | some row => (f row).map fun row => rows.dropLast ++ [row]
  | none => none

/-! ## Keys with values -/

/-- Adds a value below the key `k` and the keys that follow it. Tables on the
way are made, or were made by dotted keys; the ones before the last may also be
implied or the last of a list of tables. -/
def define (value : Toml) (k : String) : List String → Fields → Option Fields
  | [], fields => if (fields.lookup k).isSome then none else some (fields ++ [(k, value)])
  | next :: rest, fields =>
    match fields.lookup k with
    | none => (define value next rest []).map fun inner => fields ++ [(k, .table .dotted inner)]
    | some (.table source inner) =>
      if source = .stated || (rest.isEmpty && source != .dotted) then none
      else
        (define value next rest inner).map fun inner => replaceAt k (.table source inner) fields
    | some (.tables rows) =>
      if rest.isEmpty then none
      else
        (changeLast (define value next rest) rows).map fun rows =>
          replaceAt k (.tables rows) fields
    | some _ => none

/-! ## Headers -/

/-- Changes the table at a path of headers. Tables on the way are implied when
they are missing; of a list of tables the last one counts. -/
def change (f : Fields → Option Fields) : List String → Fields → Option Fields
  | [], fields => f fields
  | k :: rest, fields =>
    match fields.lookup k with
    | none => (change f rest []).map fun inner => fields ++ [(k, .table .implied inner)]
    | some (.table source inner) =>
      (change f rest inner).map fun inner => replaceAt k (.table source inner) fields
    | some (.tables rows) =>
      (changeLast (change f rest) rows).map fun rows => replaceAt k (.tables rows) fields
    | some _ => none

/-- Opens the table of a header. -/
def openTable (k : String) (fields : Fields) : Option Fields :=
  match fields.lookup k with
  | none => some (fields ++ [(k, .table .stated [])])
  | some (.table .implied inner) => some (replaceAt k (.table .stated inner) fields)
  | some _ => none

/-- Adds a row to the list of tables of a header. -/
def openRow (k : String) (fields : Fields) : Option Fields :=
  match fields.lookup k with
  | none => some (fields ++ [(k, .tables [[]])])
  | some (.tables rows) => some (replaceAt k (.tables (rows ++ [[]])) fields)
  | some _ => none

/-! ## Reading values -/

def text? : Toml → Option String
  | text s => some s
  | _ => none

def texts? : Toml → Option (List String)
  | list items => items.mapM text?
  | _ => none

/-- The fields of a table, however it was written. -/
def fields? : Toml → Option Fields
  | inline fields | table _ fields => some fields
  | _ => none

end Toml

end Scaffold
