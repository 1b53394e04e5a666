import FeedQuery.Row
import FeedQuery.Text

/-!
# The command line

`CommandLine.parse` reads the arguments of the program: options, which may stand before or after the
command, a command and its operand. An option is given at most once before the command and once
after it, where the later one counts. Everything after a double dash is an operand. Arguments that
do not fit are refused, for whatever reason.
-/

namespace FeedQuery.CommandLine

/-- The options that take a value. -/
inductive Setting where
  | service
  | authService
  | identifier
  | password
  | limit
  /-- What becomes of lists in records. -/
  | arrayPolicy
  /-- What is logged. -/
  | logLevel
deriving DecidableEq

/-- The options that take none. -/
inductive Switch where
  /-- A query that anything is wrong with is refused. -/
  | strict
  /-- Results are written as JSON. -/
  | json
  /-- Accounts are searched for instead of posts. -/
  | people
deriving DecidableEq

/-- The commands. -/
inductive Verb where
  | query
  /-- Shows how a query is read. -/
  | parse
  | tables
  | search
  /-- Writes a script for a shell. -/
  | completions
  | repl
deriving DecidableEq

/-- The options given at one level: before the command, or after it. -/
structure Given where
  /-- The values of options, in the order in which they were given. -/
  values : List (Setting × String)
  /-- The options without values. -/
  switches : List Switch

/-- No options. -/
def Given.none : Given := ⟨[], []⟩

/-- The option of that long name. -/
def setting? (name : String) : Option Setting :=
  [("service", .service), ("auth-service", .authService), ("identifier", .identifier),
    ("password", .password), ("limit", .limit), ("array-policy", .arrayPolicy),
    ("log-level", .logLevel)].lookup name

/-- The option of that letter. -/
def shortSetting? (c : Char) : Option Setting :=
  if c = 'i' then some .identifier else if c = 'p' then some .password else none

/-- The command of that name. -/
def verb? (name : String) : Option Verb :=
  [("query", .query), ("parse", .parse), ("tables", .tables), ("search", .search),
    ("completions", .completions), ("repl", .repl)].lookup name

/-- Whether a command takes an operand. -/
def Verb.takesOperand : Verb → Bool
  | .query | .parse | .search | .completions => true
  | .tables | .repl => false

/-- The shells that there are scripts for. -/
def shells : List String := ["bash", "elvish", "fish", "powershell", "zsh"]

/-- Whether a command takes that operand. -/
def Verb.accepts (verb : Verb) (operand : String) : Bool :=
  match verb with
  | .completions => shells.contains operand
  | verb => verb.takesOperand

/-- Whether there is an explanation of what the arguments name: of everything, of a command, or of
explanations. -/
def isTopic : List String → Bool
  | [] => true
  | [name] => name == "help" || (verb? name).isSome
  | _ => false

/-- The option without a value of that long name; one of them belongs to a single command. -/
def switch? (verb : Option Verb) (name : String) : Option Switch :=
  if name = "strict" then some .strict
  else if name = "json" then some .json
  else if name = "people" && verb == some .search then some .people
  else none

/-- Whether an option takes a value. -/
def accepts (s : Setting) (value : String) : Bool :=
  match s with
  | .limit => (Text.signed? Text.maxWord32 value).isSome
  | .arrayPolicy => (ArrayPolicy.ofWord? value).isSome
  | _ => true

/-- Gives an option a value, unless it does not take it or has one. -/
def Given.set? (g : Given) (s : Setting) (value : String) : Option Given :=
  if (g.values.lookup s).isSome || !accepts s value then Option.none
  else some { g with values := g.values ++ [(s, value)] }

/-- Gives an option without a value, unless it was given before. -/
def Given.turnOn? (g : Given) (s : Switch) : Option Given :=
  if g.switches.contains s then Option.none else some { g with switches := g.switches ++ [s] }

/-- The value of an option: the one after the command, or else the one before it. -/
def valueOf (before after : Given) (s : Setting) : Option String :=
  (after.values.lookup s).or (before.values.lookup s)

/-- What arguments are read as so far. -/
structure State where
  /-- The options before the command. -/
  before : Given
  verb : Option Verb
  /-- The options after the command. -/
  after : Given
  operand : Option String
  /-- The option whose value comes next. -/
  awaiting : Option Setting
  /-- Whether only operands may follow. -/
  escaped : Bool

/-- What arguments are read as when there are none. -/
def State.initial : State := ⟨.none, Option.none, .none, Option.none, Option.none, false⟩

/-- What the arguments ask for. -/
inductive Request where
  /-- An explanation of the arguments. -/
  | help
  | version
  /-- A command with its options and its operand. -/
  | run (before : Given) (verb : Verb) (after : Given) (operand : String)

/-- What comes of reading an argument: arguments that are refused, an answer at once, or more. -/
inductive Progress where
  /-- The arguments do not fit. -/
  | refused
  /-- The arguments after this one do not matter. -/
  | settled (r : Request)
  /-- The arguments after this one say what to explain. -/
  | explaining
  /-- More arguments may follow. -/
  | more (s : State)

namespace State

/-- The options at the present level. -/
def level (s : State) : Given := if s.verb.isNone then s.before else s.after

/-- The same state with other options at the present level. -/
def withLevel (s : State) (g : Given) : State :=
  if s.verb.isNone then { s with before := g } else { s with after := g }

/-- Gives an option a value. -/
def set (s : State) (name : Setting) (value : String) : Progress :=
  match s.level.set? name value with
  | some g => .more { s.withLevel g with awaiting := Option.none }
  | Option.none => .refused

/-- Reads an argument that starts with two dashes and goes on. -/
def long (s : State) (name : String) (value : Option String) : Progress :=
  match setting? name, value with
  | some opt, some value => s.set opt value
  | some opt, Option.none => .more { s with awaiting := some opt }
  | Option.none, some _ => .refused
  | Option.none, Option.none =>
    match switch? s.verb name with
    | some sw =>
      match s.level.turnOn? sw with
      | some g => .more (s.withLevel g)
      | Option.none => .refused
    | Option.none =>
      if name = "help" then .settled .help
      else if name = "version" && s.verb.isNone then .settled .version
      else .refused

/-- Reads an argument that starts with one dash and goes on with letters. -/
def short (s : State) : List Char → Progress
  | [] => .refused
  | c :: rest =>
    match shortSetting? c with
    | some opt =>
      match rest with
      | [] => .more { s with awaiting := some opt }
      | '=' :: value => s.set opt (String.ofList value)
      | value => s.set opt (String.ofList value)
    | Option.none =>
      if c = 'h' then .settled .help
      else if c = 'V' && s.verb.isNone then .settled .version
      else .refused

/-- Reads an argument that is no option. -/
def plain (s : State) (arg : String) : Progress :=
  match s.verb with
  | Option.none =>
    if s.escaped then .refused
    else if arg = "help" then .explaining
    else
      match verb? arg with
      | some verb => .more { s with verb := some verb }
      | Option.none => .refused
  | some verb =>
    if verb.accepts arg && s.operand.isNone then .more { s with operand := some arg }
    else .refused

/-- Reads an argument. -/
def read (s : State) (arg : String) : Progress :=
  if s.escaped then s.plain arg
  else
    match s.awaiting, arg.toList with
    | some opt, ['-'] => s.set opt arg
    | some _, '-' :: _ => .refused
    | some opt, _ => s.set opt arg
    | Option.none, ['-', '-'] => .more { s with escaped := true }
    | Option.none, '-' :: '-' :: rest =>
      let name := String.ofList (rest.takeWhile (· != '='))
      match rest.dropWhile (· != '=') with
      | _ :: value => s.long name (some (String.ofList value))
      | [] => s.long name Option.none
    | Option.none, ['-'] => s.plain arg
    | Option.none, '-' :: rest => s.short rest
    | Option.none, _ => s.plain arg

/-- What the arguments ask for once all are read. Without a command, lines are read. -/
def finish (s : State) : Option Request :=
  if s.awaiting.isSome then Option.none
  else
    let verb := s.verb.getD .repl
    match verb.takesOperand, s.operand with
    | true, Option.none => Option.none
    | true, some operand => some (.run s.before verb s.after operand)
    | false, _ => some (.run s.before verb s.after "")

/-- Reads arguments one after the other. -/
def readAll (s : State) : List String → Option Request
  | [] => s.finish
  | arg :: rest =>
    match s.read arg with
    | .refused => Option.none
    | .settled r => some r
    | .explaining => if isTopic rest then some .help else Option.none
    | .more s => s.readAll rest

end State

/-- What arguments ask for; `none` when they are refused. -/
def parse (args : List String) : Option Request := State.initial.readAll args

end FeedQuery.CommandLine
