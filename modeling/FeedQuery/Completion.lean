import FeedQuery.Retrieval
import FeedQuery.Text

/-!
# Hints and completions

What the prompt offers while a line is being entered. A line that starts with a slash is a command.
In any other line, and in the command that shows a tree, the last word is completed to a keyword, or
to a table right after `FROM`. `hint` is the rest of the first candidate that continues the line as
it is; `complete` lists all candidates, in any letter case.

One kind of line is left out. A word starts one byte behind the break before it, and where that
break takes more bytes, there is no character at that place: the program stops there. `lastWord` and
what is made of it say nothing about such a line; they take the break as a whole.
-/

namespace FeedQuery.Completion

/-- The commands, each with what it does. -/
def commands : List (String × String) := [
  ("/login", "Sign in: /login <handle> <app-password>"),
  ("/logout", "Drop the current session"),
  ("/whoami", "Show the signed-in account"),
  ("/tables", "List queryable tables"),
  ("/tree", "Show the syntax tree of a query"),
  ("/search", "Search posts: /search <text>"),
  ("/people", "Search accounts: /people <text>"),
  ("/prefs", "Show preferences of the signed-in account"),
  ("/json", "Toggle JSON output"),
  ("/arrays", "Array columns: /arrays skip|index"),
  ("/limit", "Page size: /limit <n>"),
  ("/clear", "Clear the screen"),
  ("/help", "Show available commands"),
  ("/exit", "Quit the REPL")]

/-- The keywords, which need no explanation. -/
def keywords : List (String × String) :=
  [("SELECT", ""), ("FROM", ""), ("WHERE", ""), ("AND", ""), ("OR", "")]

/-- Whether a character ends a word. -/
def isBreak (c : Char) : Bool := Text.isBlank c || c == ','

/-- The last word of a line, possibly empty. A line whose last break takes several bytes is left
out. -/
def lastWord (line : List Char) : List Char := (line.reverse.takeWhile (!isBreak ·)).reverse

/-- What stands before the last word of a line. A line whose last break takes several bytes is left
out. -/
def beforeWord (line : List Char) : List Char := (line.reverse.dropWhile (!isBreak ·)).reverse

/-- Whether a name continues the given characters. -/
def continues (start : List Char) (name : String) : Bool := start.isPrefixOf name.toList

/-- Whether a line ends in `FROM`, blanks aside. -/
def endsInFrom (line : List Char) : Bool :=
  "FROM".toList.reverse.isPrefixOf (Text.trimEndChars line).reverse

/-- The names that the last word of a line may become. -/
def candidates (line : List Char) : List (String × String) :=
  let word := lastWord line
  if word.isEmpty then []
  else if endsInFrom (beforeWord line) then
    tables.filter fun entry => continues (Text.lowerChars word) entry.1
  else keywords.filter fun entry => continues (Text.upperChars word) entry.1

/-- Whether a line is a command. -/
def isCommand (line : List Char) : Bool := line.head? == some '/'

/-- The rest of the first name that continues a word and is not the word itself. -/
def restOf? (names : List (String × String)) (word : List Char) : Option String :=
  (names.find? fun entry => continues word entry.1 && entry.1.toList != word).map fun entry =>
    String.ofList (entry.1.toList.drop word.length)

/-- What would continue a line, with the cursor at its end. -/
def hintAtEnd (line : List Char) : Option String :=
  if isCommand line then
    if line.contains ' ' then none else restOf? commands line
  else restOf? (candidates line) (lastWord line)

/-- What would continue a line, with the cursor at byte `pos`. A line whose last break takes several
bytes is left out, unless it is a command. -/
def hint (line : String) (pos : Nat) : Option String :=
  if pos < line.utf8ByteSize then none else hintAtEnd line.toList

/-- A candidate: how it is listed, and what it puts into the line. -/
structure Candidate where
  /-- How it is listed. -/
  display : String
  /-- What it puts into the line. -/
  replacement : String
deriving DecidableEq

/-- A name with what it stands for, in a column of the given width. -/
def entryText (width : Nat) (entry : String × String) : String :=
  if entry.2 = "" then entry.1 else Text.pad width entry.1 ++ " " ++ entry.2

/-- A name as a candidate. -/
def candidateOf (width : Nat) (entry : String × String) : Candidate :=
  ⟨entryText width entry, entry.1 ++ " "⟩

/-- The candidates at the end of a line, and the byte where they go. -/
def completeChars (line : List Char) : Nat × List Candidate :=
  if isCommand line && !line.contains ' ' then
    (0, (commands.filter fun entry => continues line entry.1).map (candidateOf 16))
  else if isCommand line && !"/tree".toList.isPrefixOf line then (Text.byteSize line, [])
  else (Text.byteSize (beforeWord line), (candidates line).map (candidateOf 12))

/-- The candidates for a line with the cursor at byte `pos`, which is the end of a character, and
the byte where they go. A line whose last break before the cursor takes several bytes is left out,
unless it is a command other than the one that shows a tree. -/
def complete (line : String) (pos : Nat) : Nat × List Candidate :=
  completeChars (Text.takeBytes pos line.toList)

end FeedQuery.Completion
