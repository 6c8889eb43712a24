import Excerpt.Table

/-! # Values of a configuration file

A TOML file is a table of values. Tables come about in four ways (`Origin`), which decides what may still be
added to them: each table has at most one header, dotted keys do not reach into tables with a header, and a
table written inline is complete. `Entries.openTable?`, `Entries.openArray?` and `Entries.assign?` are the
three things a line can do, and give `none` where it may not. -/

namespace Excerpt

namespace Config

/-- How a table came about. -/
inductive Origin where
  /-- By its own header. -/
  | header
  /-- By the header of a table inside it. -/
  | implied
  /-- By a dotted key. -/
  | dotted
  /-- As a value in braces. -/
  | inline
deriving DecidableEq, Repr, Inhabited

/-- A value of a configuration file. -/
inductive Value where
  | text (t : Text)
  /-- A number, a truth value or a date, as it is written; no setting takes one. -/
  | scalar (written : Text)
  | array (items : List Value)
  | table (origin : Origin) (entries : List (Text × Value))
  /-- Tables with one header in double brackets each: the newest and those before it. -/
  | tables (newest : List (Text × Value)) (older : List (List (Text × Value)))
deriving Repr, Inhabited

/-- The keys of a table with their values, ascending. -/
abbrev Entries := List (Text × Value)

namespace Entries

/-- Sets a key to what `f` makes of its value, unless `f` refuses. -/
def update? (key : Text) (f : Option Value → Option Value) (entries : Entries) : Option Entries :=
  (f (entries.lookup key)).map fun value => Table.insert key value entries

/-- Changes the table that the path of a header leads to. A missing table is made. -/
def within? (f : Entries → Option Entries) : List Text → Entries → Option Entries
  | [], entries => f entries
  | key :: rest, entries =>
    update? key (fun old => match old with
      | none => (within? f rest []).map (.table .implied)
      | some (.table origin inner) =>
        if origin = .inline then none else (within? f rest inner).map (.table origin)
      | some (.tables newest older) => (within? f rest newest).map (.tables · older)
      | some _ => none) entries

/-- Opens the table of a header. -/
def openTable? (path : List Text) (key : Text) (entries : Entries) : Option Entries :=
  within? (update? key fun old => match old with
    | none => some (.table .header [])
    | some (.table .implied inner) => some (.table .header inner)
    | some _ => none) path entries

/-- Opens a further table of a header in double brackets. -/
def openArray? (path : List Text) (key : Text) (entries : Entries) : Option Entries :=
  within? (update? key fun old => match old with
    | none => some (.tables [] [])
    | some (.tables newest older) => some (.tables [] (newest :: older))
    | some _ => none) path entries

/-- Gives a value to a key at the end of dotted keys. -/
def assign? (value : Value) (key : Text) : List Text → Entries → Option Entries
  | [], entries => update? key (fun old => if old.isSome then none else some value) entries
  | first :: rest, entries =>
    update? first (fun old => match old with
      | none => (assign? value key rest []).map (.table .dotted)
      | some (.table .dotted inner) => (assign? value key rest inner).map (.table .dotted)
      | some (.table .implied inner) =>
        if rest.isEmpty then none else (assign? value key rest inner).map (.table .implied)
      | some _ => none) entries

end Entries

end Config

end Excerpt
