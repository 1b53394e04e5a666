import FeedQuery.CommandLine
import FeedQuery.Query.Json
import FeedQuery.Repl

/-!
# The program

`Program.run` says what the program writes and how it exits, given its arguments, its environment,
the lines of its input and the network. Refused arguments exit with code 2; a run that fails exits
with code 1 and says why.
-/

namespace FeedQuery.Program

open CommandLine (Given Switch)

/-- What the program comes to. -/
structure Exit where
  code : Nat
  console : Console
  network : Network

/-- The exit code of a run that fails. -/
def failed : Nat := 1

/-- The exit code for arguments that are refused. -/
def refused : Nat := 2

/-- What is written when a run fails. -/
def failure (e : SessionError) : Console := .sayLine ("Error: " ++ e.message)

/-- The flags that options give. -/
def flagsOf (before after : Given) : Flags :=
  let value := CommandLine.valueOf before after
  { service := value .service
    authService := value .authService
    identifier := value .identifier
    password := value .password
    limit := (value .limit).bind (Text.signed? Text.maxWord32)
    policy := ((value .arrayPolicy).bind ArrayPolicy.ofWord?).getD .skip
    strict := before.switches.contains .strict || after.switches.contains .strict }

/-- Whether an option without a value was given, before or after the command. -/
def isOn (before after : Given) (s : Switch) : Bool :=
  before.switches.contains s || after.switches.contains s

/-- Ends a step of a session: what is written for its result, or for its failure. -/
def ended {α : Type} (t : Turn α) (f : α → Console) : Exit :=
  match t.result with
  | .ok a => ⟨0, f a, t.network⟩
  | .error e => ⟨failed, failure e, t.network⟩

/-- Starts a session, and goes on when that succeeds. -/
def withSession (settings : Settings) (n : Network) (go : Session → Network → Exit) : Exit :=
  let t := settings.session.start settings.credentials n
  match t.result with
  | .ok () => go t.session t.network
  | .error e => ⟨failed, failure e, t.network⟩

/-- Runs a query. -/
def query (settings : Settings) (json : Bool) (text : String) (n : Network) : Exit :=
  withSession settings n fun s n =>
    ended (s.run settings.options text n) (Repl.reported json text)

/-- Searches for words. -/
def search (settings : Settings) (json : Bool) (target : SearchTarget) (words : String)
    (n : Network) : Exit :=
  withSession settings n fun s n =>
    ended (s.search settings.options target words n) (Repl.shown json)

/-- How a query is read, as a value. -/
def readingValue (c : Compiled) : Json.Value :=
  .obj [("tree", c.tree.toValue), ("query", c.query.toValue),
    ("diagnostics", .arr (c.diagnostics.map Diagnostic.toValue))]

/-- Shows how a query is read; a strict run fails when anything is wrong with it. -/
def parse (strict json : Bool) (text : String) (n : Network) : Exit :=
  match Compiled.ofText text with
  | .error e => ⟨failed, failure (.query e), n⟩
  | .ok c =>
    let console :=
      if json then Console.printLine (readingValue c).pretty
      else .print c.tree.display ++ .say (Diagnostic.renderAll text c.diagnostics)
    ⟨if strict && !c.isClean then failed else 0, console, n⟩

/-- Lists the tables. -/
def tableList : Console :=
  .print (String.join (tables.map fun entry =>
    Text.line (Text.pad 14 entry.1 ++ " " ++ entry.2)))

/-- How a run begins. -/
inductive Start where
  /-- It is over. -/
  | exited (e : Exit)
  /-- Something is written, and lines are read. -/
  | reading (r : Repl) (console : Console)

/-- Begins to read lines, once the session has started. -/
def repl (settings : Settings) (json : Bool) (n : Network) : Start :=
  let t := settings.session.start settings.credentials n
  match t.result with
  | .ok () => .reading ⟨t.session, settings.options, json, t.network⟩ Repl.banner
  | .error e => .exited ⟨failed, failure e, t.network⟩

/-- Begins a run of the program. -/
def start (args : List String) (env : Environment) (n : Network) : Start :=
  match CommandLine.parse args with
  | none => .exited ⟨refused, .empty, n⟩
  | some .help => .exited ⟨0, .empty, n⟩
  | some .version => .exited ⟨0, .printLine ("skyql " ++ Repl.version), n⟩
  | some (.run before verb after operand) =>
    let settings := Settings.resolve env (flagsOf before after)
    let json := isOn before after .json
    match verb with
    | .query => .exited (query settings json operand n)
    | .parse => .exited (parse settings.options.strict json operand n)
    | .tables => .exited ⟨0, tableList, n⟩
    | .search =>
      let target := if isOn before after .people then SearchTarget.actors else .posts
      .exited (search settings json target operand n)
    | .completions => .exited ⟨0, .empty, n⟩
    | .repl => repl settings json n

/-- Runs the program on the lines of its input. -/
def run (args : List String) (env : Environment) (input : List String) (n : Network) : Exit :=
  match start args env n with
  | .exited e => e
  | .reading r console =>
    let (r, written) := r.lines input
    ⟨0, console ++ written, r.network⟩

end FeedQuery.Program
