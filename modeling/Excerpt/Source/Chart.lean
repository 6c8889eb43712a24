import Excerpt.Source.Network
import Std.Data.HashMap
import Std.Data.HashSet

/-! # Charts

A chart records all ways to read a source by a grammar. It has a column for every position of the source; an
item `(place, origin)` stands in a column if a reading of the rule of the place, begun at column `origin`, has
come past that place there. Columns are filled from left to right. In each, items lead to what is expected
next, rules that are expected are begun, and rules that are complete take along the items that wait for them in
the column where they began (`Building.close`). Then the terminals that stand at the position are looked up,
and the items that expect them move on (`Chart.scan`).

Comments and some preprocessor lines can stand anywhere. The column after one expects what the column before it
expects. -/

namespace Excerpt

namespace Source

/-- A reading of a rule, begun at column `origin`, that has come past a place or stands before it. -/
structure Item where
  place : Nat
  origin : Nat
deriving DecidableEq, Repr, Inhabited, Hashable

/-- A terminal that is expected: the item that stands before it and the column where that item stands. -/
structure Expectation where
  item : Item
  home : Nat
deriving DecidableEq, Repr, Inhabited

/-- What has been read up to a position. -/
structure Column where
  /-- The items that have come to this position. -/
  items : Std.HashSet Item
  /-- The items that wait for a rule that begins here. -/
  waiting : Std.HashMap Nat (List Item)
  /-- The columns where the rules that are complete here have begun. -/
  complete : Std.HashMap Nat (List Nat)
  /-- The columns from which items have come here past a terminal. -/
  scanned : Std.HashMap Item (List Nat)
  /-- The terminals that are expected. -/
  expected : List Expectation
  /-- The strings with holes that are open, the innermost first. -/
  strings : List OpenString
  /-- The column where the whole grammar can end, with nothing but comments after it. -/
  ending : Option Nat
deriving Inhabited

/-- What comes to a position from the left. -/
structure Arrivals where
  /-- Items past a terminal, with the columns they come from. -/
  items : List (Item × Nat)
  /-- Columns that end with a comment here. -/
  passed : List Nat
  strings : List OpenString
deriving Inhabited

namespace Column

/-- The column without items. -/
def empty : Column := ⟨∅, ∅, ∅, ∅, [], [], none⟩

/-- The items that wait for a rule. -/
def waitingFor (column : Column) (rule : Rule) : List Item := column.waiting.getD rule.ctorIdx []

end Column

/-! ### Filling a column -/

/-- What is still to be done in a column. -/
inductive Task where
  | visit (item : Item)
  | begin (rule : Rule)
deriving Repr, Inhabited

/-- A column that is being filled. -/
structure Building where
  column : Column
  /-- What is expected already. -/
  known : Std.HashSet Item
  tasks : List Task
deriving Inhabited

namespace Building

variable (net : Network) (columns : Array Column) (position : Nat) (rest : Text)

/-- Adds an item. -/
def addItem (building : Building) (item : Item) : Building :=
  if building.column.items.contains item then building
  else
    { building with
      column := { building.column with items := building.column.items.insert item }
      tasks := .visit item :: building.tasks }

/-- Notes that an item has come past a terminal from a column. -/
def addScanned (building : Building) (item : Item) (home : Nat) : Building :=
  let homes := building.column.scanned.getD item []
  addItem { building with
    column := { building.column with scanned := building.column.scanned.insert item (home :: homes) } } item

/-- Expects what is mentioned at the place of an item. A semicolon that may be left out is only expected if it
is there. -/
def expect (building : Building) (item : Item) : Building :=
  if building.known.contains item then building
  else
    let building := { building with known := building.known.insert item }
    match net.mention item.place with
    | .terminal terminal =>
      if terminal = .optionalSemicolon && rest.head? != some ';' then building.addScanned item position
      else
        let expectation : Expectation := ⟨item, position⟩
        { building with
          column := { building.column with expected := expectation :: building.column.expected } }
    | .rule rule =>
      let before := building.column.waiting.get? rule.ctorIdx
      let waiting := building.column.waiting.insert rule.ctorIdx (item :: before.getD [])
      { building with
        column := { building.column with waiting }
        tasks := if before.isNone then .begin rule :: building.tasks else building.tasks }

/-- Expects what another column expects. -/
def inherit (building : Building) (column : Column) : Building :=
  { building with
    column := { building.column with
      expected := column.expected ++ building.column.expected
      ending := building.column.ending.or column.ending } }

/-- Takes along what waits for a rule that has begun at column `origin` and is complete. -/
def finish (building : Building) (rule : Rule) (origin : Nat) : Building :=
  let origins := building.column.complete.getD rule.ctorIdx []
  if origins.contains origin then building
  else
    let complete := building.column.complete.insert rule.ctorIdx (origin :: origins)
    let building := { building with column := { building.column with complete } }
    let before := columns.getD origin .empty
    let building := if rule = .skippedLine then building.inherit before else building
    let building :=
      if rule = .file then { building with column := { building.column with ending := some position } }
      else building
    (before.waitingFor rule).foldl addItem building

/-- Does one task. -/
def step (building : Building) (task : Task) : Building :=
  match task with
  | .begin rule =>
    (net.startsOf rule).foldl
      (fun building place => building.expect net position rest ⟨place, position⟩) building
  | .visit item =>
    let building :=
      if net.isEnding item.place then building.finish columns position (net.owner item.place) item.origin
      else building
    (net.follow item.place).foldl
      (fun building place => building.expect net position rest ⟨place, item.origin⟩) building

/-- Does all tasks, in at most `fuel` steps. -/
def close (fuel : Nat) (building : Building) : Building :=
  match fuel with
  | 0 => building
  | fuel + 1 =>
    match building.tasks with
    | [] => building
    | task :: tasks => close fuel (step net columns position rest { building with tasks } task)

end Building

/-! ### Filling the chart -/

namespace Chart

/-- Number of items that a column can hold. -/
def bound (net : Network) (position : Nat) : Nat := 2 * (net.mentions.size + 1) * (position + 2)

/-- The column at a position, given what comes to it. -/
def column (net : Network) (columns : Array Column) (position : Nat) (rest : Text) (arrivals : Arrivals) :
    Column :=
  let building : Building := ⟨{ Column.empty with strings := arrivals.strings }, ∅, []⟩
  let building := arrivals.items.foldl (fun building p => building.addScanned p.1 p.2) building
  let building := arrivals.passed.foldl (fun building i => building.inherit (columns.getD i .empty)) building
  let building :=
    if position = 0 then
      { building with
        column := { building.column with ending := some 0 }
        tasks := .begin .file :: building.tasks }
    else building
  let isReached := position = 0 || !arrivals.items.isEmpty || !arrivals.passed.isEmpty
  let mayBeLine := (rest.drop (Terminal.blanks rest)).head? == some '#'
  let building :=
    if isReached && mayBeLine then { building with tasks := .begin .skippedLine :: building.tasks } else building
  (building.close net columns position rest (bound net position)).column

/-- The terminals that a column expects, each with the expectations for it. -/
def wanted (net : Network) (column : Column) : Std.HashMap Terminal (List Expectation) :=
  column.expected.foldl (fun all expectation =>
    match net.mention expectation.item.place with
    | .terminal terminal => all.insert terminal (expectation :: all.getD terminal [])
    | .rule _ => all) ∅

/-- The strings with holes that are open after a terminal. -/
def stringsAfter (t : Text) (terminal : Terminal) (strings : List OpenString) : List OpenString :=
  match terminal with
  | .openHoled _ =>
    match Terminal.openHoled? t with
    | some (string, _) => string :: strings
    | none => strings
  | .closeHoled => strings.drop 1
  | _ => strings

/-- Lets the items that expect a terminal move on past it. -/
def advance (arrivals : Array Arrivals) (target : Nat) (strings : List OpenString)
    (expectations : List Expectation) : Array Arrivals :=
  arrivals.modify target fun before =>
    { before with items := expectations.map (fun e => (e.item, e.home)) ++ before.items, strings }

/-- Lets items move on past each of the terminals, which stand at `position`. -/
def advanceAll (all : Std.HashMap Terminal (List Expectation)) (arrivals : Array Arrivals) (position : Nat)
    (t : Text) (strings : List OpenString) (found : List (Terminal × Nat)) : Array Arrivals :=
  found.foldl (fun arrivals p =>
    advance arrivals (position + p.2) (stringsAfter t p.1 strings) (all.getD p.1 [])) arrivals

/-- What comes to later positions from the column at `position`. -/
def scan (net : Network) (arrivals : Array Arrivals) (column : Column) (position : Nat) (rest : Text) :
    Array Arrivals :=
  let all := wanted net column
  let terminals := all.toList.map (·.1)
  let strings := column.strings
  let glued := Terminal.glued strings.head? rest terminals
  if !glued.isEmpty then advanceAll all arrivals position rest strings glued
  else
    let semicolon :=
      if terminals.contains .optionalSemicolon && rest.head? == some ';' then [(Terminal.optionalSemicolon, 1)]
      else []
    if !semicolon.isEmpty then advanceAll all arrivals position rest strings semicolon
    else
      let gap := (rest.takeWhile fun c => Terminal.isSpace c && c != '\n').length
      if terminals.contains .lineEnd && (rest.drop gap).head? == some '\n' then
        advanceAll all arrivals (position + gap) (rest.drop gap) strings [(.lineEnd, 1)]
      else
        let blanks := Terminal.blanks rest
        let t := rest.drop blanks
        let position' := position + blanks
        match Terminal.commentLength? t with
        | some n => arrivals.modify (position' + n) fun before =>
            { before with passed := position :: before.passed, strings }
        | none =>
          let spaced := terminals.filter fun terminal => !terminal.isGlued
          let found := Terminal.words t spaced ++ Terminal.longest strings.head? t spaced
          advanceAll all arrivals position' t strings found

/-- Fills the chart from a position on. -/
def fill (net : Network) (columns : Array Column) (arrivals : Array Arrivals) (position : Nat) (rest : Text) :
    Array Column :=
  let here := arrivals.getD position default
  let isReached := position = 0 || !here.items.isEmpty || !here.passed.isEmpty
  let next := if isReached then column net columns position rest here else .empty
  let arrivals := if isReached then scan net arrivals next position rest else arrivals
  let columns := columns.push next
  match rest with
  | [] => columns
  | _ :: rest => fill net columns arrivals (position + 1) rest

/-- The columns of the chart of a source. -/
def ofSource (net : Network) (source : Text) : Array Column :=
  fill net #[] (Array.replicate (source.length + 1) default) 0 source

/-- The column where the last item of the source ends, if the source is well-formed. Only blank characters
and comments follow it. -/
def ending? (columns : Array Column) (source : Text) : Option Nat :=
  let stop := source.length - Terminal.blanks source.reverse
  let candidates := (List.range (source.length + 1)).filter (· ≥ stop)
  (candidates.filterMap fun i => (columns.getD i .empty).ending).head?

end Chart

end Source

end Excerpt
