import FeedQuery.Json.Printer
import FeedQuery.Text.Casing

/-!
# Rows

A record is a JSON value of any nesting; a row is a flat list of named cells. `Row.flatten` gives
every leaf of a record a column, named by the keys on the way to it in lower case and joined by
underscores; the first leaf of a name wins. `Row.project` picks columns by field names, where a dot
stands for an underscore (`normalizeField`).
-/

namespace FeedQuery

/-- What becomes of the lists in a record. -/
inductive ArrayPolicy where
  /-- They are left out. -/
  | skip
  /-- Their items are named by their positions. -/
  | index
deriving DecidableEq

namespace ArrayPolicy

/-- The word for a policy. -/
def word : ArrayPolicy → String
  | .skip => "skip"
  | .index => "index"

/-- The policy of that word, in any letter case. -/
def ofWord? (word : String) : Option ArrayPolicy :=
  let word := Text.lowerAscii word
  if word = "skip" then some .skip else if word = "index" then some .index else none

/-- What is said of a word that is no policy. -/
def unknownWord (word : String) : String :=
  s!"unknown array policy '{Text.lowerAscii word}' (expected skip or index)"

end ArrayPolicy

/-- Named cells, in order; no two have one name. -/
abbrev Row := Json.Members

/-- The column of a record that is itself a cell. -/
def scalarColumn : String := "value"

/-- The column that a field name stands for. -/
def normalizeField (name : String) : String :=
  String.ofList ((Text.lowerChars name.toList).map fun c => if c = '.' then '_' else c)

/-- What a cell shows: a text as it is, nothing for null, and JSON for everything else. -/
def cellText : Json.Value → String
  | .str s => s
  | .null => ""
  | other => other.compact

namespace Row

/-- Adds a cell unless there is one of that name. -/
def keep (row : Row) (path : String) (cell : Json.Value) : Row :=
  if row.has path then row else row ++ [(path, cell)]

/-- The name of a part of what `path` names. -/
def under (path part : String) : String := path ++ "_" ++ part

mutual

/-- Adds the leaves of a value that `path` names. -/
def gather (policy : ArrayPolicy) (row : Row) (path : String) : Json.Value → Row
  | .obj members => gatherMembers policy row path members
  | .arr items =>
    match policy with
    | .skip => row
    | .index => gatherItems policy row path 0 items
  | leaf => row.keep path leaf

/-- Adds the leaves of the members of an object that `path` names. -/
def gatherMembers (policy : ArrayPolicy) (row : Row) (path : String) :
    List (String × Json.Value) → Row
  | [] => row
  | (key, value) :: rest =>
    gatherMembers policy (gather policy row (under path (Text.lower key)) value) path rest

/-- Adds the leaves of the items of a list that `path` names, from position `i` on. -/
def gatherItems (policy : ArrayPolicy) (row : Row) (path : String) (i : Nat) :
    List Json.Value → Row
  | [] => row
  | value :: rest =>
    gatherItems policy (gather policy row (under path (toString i)) value) path (i + 1) rest

end

/-- The row of a record. -/
def flatten (policy : ArrayPolicy) : Json.Value → Row
  | .obj members => members.foldl (fun row kv => gather policy row (Text.lower kv.1) kv.2) []
  | other => [(scalarColumn, other)]

/-- The cell of a column, empty when there is none. -/
def cell (row : Row) (column : String) : Json.Value := (row.get? column).getD (.str "")

/-- The columns that the fields stand for, in order, each with its cell. -/
def project (row : Row) (fields : List String) : Row :=
  Json.Members.ofList (fields.map fun field =>
    let column := normalizeField field
    (column, row.cell column))

end Row

end FeedQuery
