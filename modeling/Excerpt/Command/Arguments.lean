import Excerpt.Text.Basic

/-! # Arguments

The command line has options for all commands, the name of a command, and its own options and operand.
`Arguments.parse` reads the arguments one by one; an argument can finish an option that waits for its value.
Options for all commands may stand before or after the name of the command, and what stands after it counts.
-/

namespace Excerpt

namespace Command

/-- The commands. -/
inductive Verb where
  /-- Print the snippet of one directive. -/
  | extract
  /-- Render documents. -/
  | render
  /-- List the selectors of a source. -/
  | index
deriving DecidableEq, Repr, Inhabited

/-- The options. -/
inductive Switch where
  | config
  | root
  | verbose
  | version
  | help
  | out
  | check
  | diff
deriving DecidableEq, Repr, Inhabited

/-- What the options of one level say. -/
structure Settings where
  config : Option Text
  roots : List Text
  out : Option Text
  check : Bool
  diff : Bool
  /-- The argument that is no option. -/
  operand : Option Text
deriving DecidableEq, Repr, Inhabited

/-- What the options for all commands say. -/
structure Scope where
  config : Option Text
  roots : List Text
deriving DecidableEq, Repr, Inhabited

/-- What a command is to do. -/
inductive Task where
  | extract (directive : Text)
  | render (path : Text) (out : Option Text) (check diff : Bool)
  | index (file : Text)
deriving DecidableEq, Repr, Inhabited

/-- Why the arguments do not lead to a task. -/
inductive Stop where
  /-- They are malformed. -/
  | usage
  | version
  | help
deriving DecidableEq, Repr, Inhabited

namespace Switch

/-- The long names of the options. -/
def longNames : List (Text × Switch) :=
  [("config".toList, config), ("root".toList, root), ("verbose".toList, verbose), ("version".toList, version),
    ("help".toList, help), ("out".toList, out), ("check".toList, check), ("diff".toList, diff)]

/-- The short names of the options. -/
def shortNames : List (Char × Switch) :=
  [('c', config), ('r', root), ('v', verbose), ('V', version), ('h', help), ('o', out), ('d', diff)]

/-- Whether the option takes a value. -/
def takesValue : Switch → Bool
  | config | root | out => true
  | _ => false

/-- Whether the option can be used after the name of a command, or before any. -/
def isKnown (verb : Option Verb) : Switch → Bool
  | config | root | verbose | help => true
  | version => verb.isNone
  | out | check | diff => verb = some .render

end Switch

namespace Verb

/-- The names of the commands. -/
def names : List (Text × Verb) :=
  [("extract".toList, extract), ("render".toList, render), ("index".toList, index)]

/-- Whether the operand of the command is a path, which cannot be empty. -/
def takesPath : Verb → Bool
  | extract => false
  | render | index => true

end Verb

/-- How far the arguments have been read. -/
structure Progress where
  /-- What stands before the name of the command. -/
  before : Settings
  /-- The command, once its name has been read. -/
  verb : Option Verb
  /-- What stands after the name of the command. -/
  after : Settings
  /-- The option that waits for its value. -/
  pending : Option Switch
  /-- Whether all further arguments are operands. -/
  operandsOnly : Bool
deriving DecidableEq, Repr, Inhabited

namespace Settings

/-- The settings without any option. -/
def none : Settings := ⟨.none, [], .none, false, false, .none⟩

/-- Adds an option with its value. Paths are not empty, and only a root can be given twice. -/
def set (settings : Settings) (option : Switch) (value : Text) : Except Stop Settings :=
  if value.isEmpty then .error .usage
  else match option with
    | .root => .ok { settings with roots := settings.roots ++ [value] }
    | .config => if settings.config.isSome then .error .usage else .ok { settings with config := some value }
    | .out => if settings.out.isSome then .error .usage else .ok { settings with out := some value }
    | _ => .error .usage

/-- Adds an option without a value. -/
def turnOn (settings : Settings) (option : Switch) : Except Stop Settings :=
  match option with
  | .verbose => .ok settings
  | .version => .error .version
  | .help => .error .help
  | .check => if settings.check then .error .usage else .ok { settings with check := true }
  | .diff => if settings.diff then .error .usage else .ok { settings with diff := true }
  | _ => .error .usage

end Settings

namespace Progress

/-- Before the first argument. -/
def start : Progress := ⟨.none, none, .none, none, false⟩

/-- Changes the settings of the current level. -/
def update (p : Progress) (f : Settings → Except Stop Settings) : Except Stop Progress :=
  match p.verb with
  | none => (f p.before).map fun before => { p with before }
  | some _ => (f p.after).map fun after => { p with after }

/-- Adds an option with its value. -/
def set (p : Progress) (option : Switch) (value : Text) : Except Stop Progress := p.update (·.set option value)

/-- Reads a run of short options; the rest after one that takes a value is its value. -/
def shortOptions (p : Progress) : Text → Except Stop Progress
  | [] => .ok p
  | c :: rest =>
    match Switch.shortNames.lookup c with
    | none => .error .usage
    | some option =>
      if !option.isKnown p.verb then .error .usage
      else if option.takesValue then
        match rest with
        | [] => .ok { p with pending := some option }
        | '=' :: value => p.set option value
        | _ => p.set option rest
      else match p.update (·.turnOn option) with
        | .ok p => shortOptions p rest
        | .error e => .error e

/-- Reads a long option without its hyphens. -/
def longOption (p : Progress) (t : Text) : Except Stop Progress :=
  let (name, value?) := match t.breakAt '=' with
    | some (name, value) => (name, some value)
    | none => (t, none)
  match Switch.longNames.lookup name with
  | none => .error .usage
  | some option =>
    if !option.isKnown p.verb then .error .usage
    else match option.takesValue, value? with
      | true, some value => p.set option value
      | true, none => .ok { p with pending := some option }
      | false, none => p.update (·.turnOn option)
      | false, some _ => .error .usage

/-- Reads an argument that is no option. -/
def operand (p : Progress) (t : Text) : Except Stop Progress :=
  match p.verb with
  | none =>
    match Verb.names.lookup t with
    | some verb => .ok { p with verb := some verb }
    | none => if t = "help".toList then .error .help else .error .usage
  | some verb =>
    if p.after.operand.isSome || (verb.takesPath && t.isEmpty) then .error .usage
    else .ok { p with after := { p.after with operand := some t } }

/-- Whether the argument is written like an option. -/
def isOption (t : Text) : Bool := t.head? == some '-' && t.length > 1

/-- Reads one argument. -/
def step (p : Progress) (t : Text) : Except Stop Progress :=
  match p.pending with
  | some option => if isOption t then .error .usage else { p with pending := none }.set option t
  | none =>
    if p.operandsOnly then p.operand t
    else if t = "--".toList then
      if p.verb.isSome then .ok { p with operandsOnly := true } else .error .usage
    else match t with
      | '-' :: '-' :: rest => p.longOption rest
      | '-' :: c :: rest => p.shortOptions (c :: rest)
      | _ => p.operand t

/-- What the options for all commands say; those after the name of the command count. -/
def scope (p : Progress) : Scope :=
  ⟨p.after.config.or p.before.config, if p.after.roots.isEmpty then p.before.roots else p.after.roots⟩

/-- The task, once all arguments have been read. -/
def task (p : Progress) : Except Stop Task :=
  match p.pending, p.verb, p.after.operand with
  | none, some .extract, some directive => .ok (.extract directive)
  | none, some .render, some path =>
    if p.after.check && p.after.out.isNone then .error .usage
    else .ok (.render path p.after.out p.after.check p.after.diff)
  | none, some .index, some file => .ok (.index file)
  | _, _, _ => .error .usage

end Progress

/-- The task that the arguments ask for, and its scope. -/
def parse (arguments : List Text) : Except Stop (Scope × Task) :=
  match arguments.foldlM Progress.step Progress.start with
  | .error e => .error e
  | .ok p => p.task.map fun task => (p.scope, task)

end Command

end Excerpt
