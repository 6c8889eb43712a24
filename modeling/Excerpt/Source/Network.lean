import Excerpt.Source.Form

/-! # Networks

The forms of a grammar as a network. Every mention of a terminal or a rule in a form is a *place*. The network
says for each rule at which places it can start, and for each place which places can follow it in the same
form and whether the form can end there. Places are numbered in the order in which they are written. -/

namespace Excerpt

namespace Source

/-- What is mentioned at a place. -/
inductive Mention where
  | terminal (terminal : Terminal)
  | rule (rule : Rule)
deriving DecidableEq, Repr, Inhabited

/-- The network of a grammar. -/
structure Network where
  /-- What is mentioned at each place. -/
  mentions : Array Mention
  /-- The rule that each place belongs to. -/
  owners : Array Rule
  /-- The places that can follow each place. -/
  following : Array (List Nat)
  /-- Whether the form can end at each place. -/
  endings : Array Bool
  /-- The places where each rule can start, by the number of the rule. -/
  starts : Array (List Nat)
deriving Repr, Inhabited

namespace Network

/-- How a form can begin and end. -/
structure Ends where
  /-- Whether the form can be empty. -/
  empty : Bool
  first : List Nat
  last : List Nat
deriving Repr, Inhabited

/-- The network without places. -/
def none : Network := ⟨#[], #[], #[], #[], #[]⟩

/-- Adds a place. -/
def addPlace (net : Network) (owner : Rule) (mention : Mention) : Network × Ends :=
  let place := net.mentions.size
  ({ net with
      mentions := net.mentions.push mention
      owners := net.owners.push owner
      following := net.following.push []
      endings := net.endings.push false }, ⟨false, [place], [place]⟩)

/-- Lets each of the places `first` follow each of the places `last`. -/
def connect (net : Network) (last first : List Nat) : Network :=
  { net with following := last.foldl (fun all place => all.modify place (· ++ first)) net.following }

mutual
/-- Adds the places of a form. -/
def addForm (owner : Rule) (net : Network) : Form → Network × Ends
  | .terminal terminal => net.addPlace owner (.terminal terminal)
  | .rule rule => net.addPlace owner (.rule rule)
  | .seq forms => addSequence owner net ⟨true, [], []⟩ forms
  | .choice forms => addChoice owner net ⟨false, [], []⟩ forms
  | .opt form =>
    let (net, ends) := addForm owner net form
    (net, { ends with empty := true })
  | .many form =>
    let (net, ends) := addForm owner net form
    (net.connect ends.last ends.first, { ends with empty := true })

/-- Adds the places of forms that follow what ends with `ends`. -/
def addSequence (owner : Rule) (net : Network) (ends : Ends) : List Form → Network × Ends
  | [] => (net, ends)
  | form :: forms =>
    let (net, next) := addForm owner net form
    let first := if ends.empty then ends.first ++ next.first else ends.first
    let last := if next.empty then ends.last ++ next.last else next.last
    addSequence owner (net.connect ends.last next.first) ⟨ends.empty && next.empty, first, last⟩ forms

/-- Adds the places of forms beside those that end with `ends`. -/
def addChoice (owner : Rule) (net : Network) (ends : Ends) : List Form → Network × Ends
  | [] => (net, ends)
  | form :: forms =>
    let (net, next) := addForm owner net form
    addChoice owner net ⟨ends.empty || next.empty, ends.first ++ next.first, ends.last ++ next.last⟩ forms
end

/-- The list with a value at an index, after empty lists if need be. -/
def setAt (all : Array (List Nat)) (index : Nat) (value : List Nat) : Array (List Nat) :=
  let all := all ++ Array.replicate (index + 1 - all.size) []
  all.modify index fun _ => value

/-- Adds a rule. -/
def addRule (net : Network) (rule : Rule) (form : Form) : Network :=
  let (net, ends) := addForm rule net form
  { net with
    endings := ends.last.foldl (fun all place => all.modify place fun _ => true) net.endings
    starts := setAt net.starts rule.ctorIdx ends.first }

/-- The network of the rules of a table. -/
def ofRules (rules : RuleTable) : Network := rules.foldl (fun net p => net.addRule p.1 p.2) none

/-- The places where a rule can start. -/
def startsOf (net : Network) (rule : Rule) : List Nat := net.starts.getD rule.ctorIdx []

/-- The places that can follow a place. -/
def follow (net : Network) (place : Nat) : List Nat := net.following.getD place []

/-- What is mentioned at a place. -/
def mention (net : Network) (place : Nat) : Mention := net.mentions.getD place default

/-- The rule that a place belongs to. -/
def owner (net : Network) (place : Nat) : Rule := net.owners.getD place default

/-- Whether the form of a place can end there. -/
def isEnding (net : Network) (place : Nat) : Bool := net.endings.getD place false

end Network

end Source

end Excerpt
