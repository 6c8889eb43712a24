import Excerpt.Text.Basic

/-! # Line differences

`Diff.changes` turns the lines of one text into those of another by keeping a longest common subsequence of
them. Between two lines that are kept, deletions come before insertions. -/

namespace Excerpt

namespace Diff

/-- What happens to a line. -/
inductive Change where
  | keep (line : Text)
  | delete (line : Text)
  | insert (line : Text)
deriving DecidableEq, Repr, Inhabited

/-- The lines of a text with their ends. A line feed ends a line, and so does a carriage return, alone or with
a line feed after it. -/
def splitLines : Text → List Text
  | [] => []
  | c :: t =>
    if c = '\n' || (c = '\r' && t.head? != some '\n') then [c] :: splitLines t
    else match splitLines t with
      | [] => [[c]]
      | line :: rest => (c :: line) :: rest

/-- Number of lines at the start that two texts share. -/
def commonStart : List Text → List Text → Nat
  | a :: as, b :: bs => if a = b then commonStart as bs + 1 else 0
  | _, _ => 0

/-- The lengths of longest common subsequences of `line` and what follows it with each ending of the lines,
given those of what follows it. -/
def scoreRow (line : Text) : List Text → List Nat → List Nat
  | b :: bs, score :: below =>
    let row := scoreRow line bs below
    (if line = b then below.headD 0 + 1 else max score (row.headD 0)) :: row
  | _, _ => [0]

/-- The lengths of longest common subsequences of each ending of the first lines with each ending of the
others. -/
def scores (as bs : List Text) : List (List Nat) :=
  match as with
  | [] => [List.replicate (bs.length + 1) 0]
  | a :: as =>
    let rows := scores as bs
    scoreRow a bs (rows.headD []) :: rows

/-- The changes along a longest common subsequence; `column` lines of the second text are done. -/
def script (rows : List (List Nat)) (column : Nat) (as bs : List Text) : List Change :=
  match as, bs with
  | [], bs => bs.map .insert
  | as, [] => as.map .delete
  | a :: as, b :: bs =>
    if a = b then .keep a :: script rows.tail (column + 1) as bs
    else if (rows.headD []).getD (column + 1) 0 ≤ (rows.tail.headD []).getD column 0 then
      .delete a :: script rows.tail column as (b :: bs)
    else .insert b :: script rows (column + 1) (a :: as) bs
termination_by as.length + bs.length

/-- Puts deletions before insertions; `waiting` are the insertions since the last line that is kept. -/
def settle (waiting : List Text) : List Change → List Change
  | [] => waiting.map .insert
  | .keep line :: rest => waiting.map .insert ++ .keep line :: settle [] rest
  | .delete line :: rest => .delete line :: settle waiting rest
  | .insert line :: rest => settle (waiting ++ [line]) rest

/-- The changes that lead from one list of lines to another. Lines that both start or end with are kept. -/
def changes (old new : List Text) : List Change :=
  let start := commonStart old new
  let as := old.drop start
  let bs := new.drop start
  let stop := commonStart as.reverse bs.reverse
  let as' := as.take (as.length - stop)
  let bs' := bs.take (bs.length - stop)
  (old.take start).map .keep ++ settle [] (script (scores as' bs') 0 as' bs') ++
    (as.drop (as.length - stop)).map .keep

/-- Whether the line has its end. -/
def isEnded (line : Text) : Bool := line.getLast? == some '\n' || line.getLast? == some '\r'

/-- The line with an end. -/
def ended (line : Text) : Text := if isEnded line then line else line ++ ['\n']

namespace Change

/-- The line with a mark that says what happens to it. -/
def display : Change → Text
  | keep line => ' ' :: ended line
  | delete line => '-' :: ended line
  | insert line => '+' :: ended line

end Change

/-- The difference of two texts, line by line. -/
def display (old new : Text) : Text := (changes (splitLines old) (splitLines new)).flatMap Change.display

end Diff

end Excerpt
