import FeedQuery.Completion
import FeedQuery.Session.Step
import FeedQuery.Settings
import FeedQuery.Text
import FeedQuery.Text.Cluster
import FeedQuery.Token
import FeedQuery.Tree

/-!
# Reading lines

What is read line by line, as commands and queries, and what is written about it.
-/

namespace FeedQuery

/-!
## What a program writes

Results go to the standard output, and everything that is said about them to the standard error.
-/

/-- What has been written. -/
structure Console where
  /-- The standard output. -/
  out : String
  /-- The standard error. -/
  err : String
deriving DecidableEq

namespace Console

/-- Nothing written. -/
def empty : Console := ⟨"", ""⟩

/-- Something written to the standard output. -/
def print (s : String) : Console := ⟨s, ""⟩

/-- A line written to the standard output. -/
def printLine (s : String) : Console := ⟨Text.line s, ""⟩

/-- Something written to the standard error. -/
def say (s : String) : Console := ⟨"", s⟩

/-- A line written to the standard error. -/
def sayLine (s : String) : Console := ⟨"", Text.line s⟩

/-- What is written first, and what is written then. -/
def append (first second : Console) : Console :=
  ⟨first.out ++ second.out, first.err ++ second.err⟩

instance : Append Console := ⟨append⟩

/-- Lines written to the standard error. -/
def sayLines (lines : List String) : Console := say (String.join (lines.map Text.line))

end Console

/-!
## Lines

A line is a command when it starts with a slash, and a query otherwise. `Repl.line` says what a line
writes and what it leaves behind: the session, how queries are read and shown, and the network. The
page size changes only by `/limit`, the policy for lists only by `/arrays`, and the form of the
results only by `/json`; a line that fails changes none of them.
-/

/-- What one line leaves for the next. -/
structure Repl where
  session : Session
  /-- How queries are read and shown. -/
  options : QueryOptions
  /-- Whether results are written as JSON. -/
  json : Bool
  network : Network

/-- What a line comes to. -/
structure Line where
  /-- What is left for the next line. -/
  repl : Repl
  console : Console
  last : Bool

namespace Repl

/-- The escape character that starts a colour. -/
def escape : String := "\x1b["

/-- A text in a colour. -/
def coloured (code text : String) : String := escape ++ code ++ "m" ++ text ++ escape ++ "0m"

/-- The version of the program. -/
def version : String := "0.1.0"

/-- What is written before the first line. -/
def banner : Console :=
  let mark := coloured "36" "◉"
  let name := coloured "1" ("skyql v" ++ version)
  let about := coloured "90" "SQL-like queries for Bluesky"
  let sample := coloured "36" "SELECT * FROM posts WHERE actor = 'bsky.app'"
  let help := coloured "90" "/help"
  let exit := coloured "90" "/exit"
  .sayLines ["", s!"  {mark} {name} {about}", "",
    s!"    Try {sample}. {help} for commands, {exit} to quit.", ""]

/-- What is written before a line is entered: the name of the account, or that of the program. -/
def prompt (r : Repl) : String :=
  " " ++ coloured "36" (r.session.handle?.getD "skyql" ++ ">") ++ " "

/-- What is written after the last line. -/
def goodbye : Console := .sayLine "  Goodbye!"

/-- A line that writes something and changes nothing. -/
def writes (r : Repl) (console : Console) : Line := ⟨r, console, false⟩

/-- An error on a line of its own. -/
def failure (message : String) : Console := .sayLine ("  Error: " ++ message)

/-- What is written for an outcome. -/
def shown (json : Bool) (o : Outcome) : Console :=
  if json then .printLine o.json else .print o.text

/-- What is left after a step of the session. -/
def after (r : Repl) {α : Type} (t : Turn α) : Repl :=
  { r with session := t.session, network := t.network }

/-- What is written after a step of the session. -/
def written {α : Type} (f : α → Console) (t : Turn α) : Console :=
  match t.result with
  | .ok a => f a
  | .error e => failure e.message

/-- What is written for the report of a query. -/
def reported (json : Bool) (text : String) (report : Report) : Console :=
  .say (Diagnostic.renderAll text report.compiled.diagnostics) ++ shown json report.outcome

/-- Runs a query. -/
def query (r : Repl) (text : String) : Line :=
  let t := r.session.run r.options text r.network
  (r.after t).writes (written (reported r.json text) t)

/-- Names with explanations, in a column of the given width. -/
def listing (width : Nat) (entries : List (String × String)) : List String :=
  entries.map fun entry => "    " ++ Text.pad width entry.1 ++ " " ++ entry.2

/-- The list of commands. -/
def help : Console :=
  .sayLines (["", "  Commands:", ""] ++ listing 18 Completion.commands ++
    ["", "  Anything else is run as a query, e.g.",
      "    SELECT handle, displayName FROM followers WHERE actor = 'bsky.app'", ""])

/-- The list of tables. -/
def tableList : Console := .sayLines ([""] ++ listing 14 tables ++ [""])

/-- The tree of a query. -/
def tree (text : String) : Console :=
  if text = "" then .sayLine "  Usage: /tree <query>"
  else
    match Compiled.ofText text with
    | .ok compiled =>
      .print compiled.tree.display ++ .say (Diagnostic.renderAll text compiled.diagnostics)
    | .error e => failure e.message

/-- Shows or sets the policy for lists. -/
def arrays (r : Repl) (word : String) : Line :=
  if word = "" then r.writes (.sayLine ("  Array columns: " ++ r.options.policy.word))
  else
    match ArrayPolicy.ofWord? word with
    | some policy =>
      { r with options := { r.options with policy } }.writes
        (.sayLine ("  Array columns: " ++ policy.word))
    | none => r.writes (.sayLine ("  " ++ ArrayPolicy.unknownWord word))

/-- Shows or sets the number of records to ask for. -/
def limit (r : Repl) (word : String) : Line :=
  if word = "" then r.writes (.sayLine s!"  Page size: {r.session.limit}")
  else
    match Text.unsigned? Text.maxWord32 word with
    | some n =>
      let n := Settings.clampLimit n
      { r with session := r.session.withLimit n }.writes (.sayLine s!"  Page size: {n}")
    | none => r.writes (.sayLine "  Usage: /limit <n>")

/-- Signs in. -/
def login (r : Repl) (words : List String) : Line :=
  match words with
  | identifier :: password :: _ =>
    let t := r.session.login ⟨identifier, password⟩ r.network
    let console := match t.result with
      | .ok () => Console.sayLine ("  Signed in as " ++ t.session.handle?.getD identifier)
      | .error e => Console.sayLine ("  " ++ e.message)
    (r.after t).writes console
  | _ => r.writes (.sayLine "  Usage: /login <handle> <app-password>")

/-- Shows the account. -/
def whoami (s : Session) : Console :=
  match s.auth with
  | some a =>
    .sayLine s!"  {a.handle} ({a.did})" ++
      match s.expiry? with
      | some seconds => .sayLine ("  Access token expires " ++ Timestamp.text seconds)
      | none => .empty
  | none => .sayLine "  Not signed in (stealth mode)."

/-- Searches for words. -/
def search (r : Repl) (target : SearchTarget) (words : String) : Line :=
  if words = "" then
    let command := if target = .actors then "people" else "search"
    r.writes (.sayLine s!"  Usage: /{command} <text>")
  else
    let t := r.session.search r.options target words r.network
    (r.after t).writes (written (shown r.json) t)

/-- Shows the preferences of the account. -/
def prefs (r : Repl) : Line :=
  if r.session.isAuthenticated then
    let t := r.session.get .preferences r.network
    (r.after t).writes (written (fun v => .printLine v.pretty) t)
  else r.writes (.sayLine "  Preferences need a signed-in account. Use /login first.")

/-- Runs a command with its arguments. -/
def command (r : Repl) (name args : String) : Line :=
  match name with
  | "exit" | "quit" => ⟨r, goodbye, true⟩
  | "help" | "h" | "?" => r.writes help
  | "clear" | "cls" => r.writes (.say (escape ++ "2J" ++ escape ++ "H"))
  | "tables" => r.writes tableList
  | "tree" => r.writes (tree args)
  | "json" =>
    let word := if r.json then "off" else "on"
    { r with json := !r.json }.writes (.sayLine ("  JSON output " ++ word))
  | "arrays" => r.arrays args
  | "limit" => r.limit args
  | "login" => r.login (Text.words args)
  | "logout" => { r with session := r.session.logout }.writes (.sayLine "  Signed out.")
  | "whoami" => r.writes (whoami r.session)
  | "search" => r.search .posts args
  | "people" => r.search .actors args
  | "prefs" => r.prefs
  | _ => r.writes (.sayLine s!"  Unknown command '/{name}'. Type /help for commands.")

/-- Takes a line, blanks at its ends aside. A command ends at the first space. -/
def line (r : Repl) (text : String) : Line :=
  match Text.trimChars text.toList with
  | [] => r.writes .empty
  | ['/'] => r.writes help
  | '/' :: rest =>
    let name := rest.takeWhile (· != ' ')
    let args := rest.drop (name.length + 1)
    r.command (String.ofList name) (String.ofList (Text.trimChars args))
  | cs => r.query (String.ofList cs)

/-- Takes a line as it was typed, with the backspaces that are in it. -/
def typedLine (r : Repl) (text : String) : Line := r.line (Text.settled text)

/-- Takes lines one after the other, up to the last one or the end of the input. -/
def lines (r : Repl) : List String → Repl × Console
  | [] => (r, goodbye)
  | text :: rest =>
    let l := r.typedLine text
    if l.last then (l.repl, l.console)
    else
      let (r, console) := l.repl.lines rest
      (r, l.console ++ console)

end Repl

end FeedQuery
