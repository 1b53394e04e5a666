import FeedQuery.Row
import FeedQuery.Text

/-!
# Tables

Records make a table, which is shown in columns. A table is what most queries come to.
-/

namespace FeedQuery

/-!
## Tables of records

A table has columns and rows. `Table.ofRecords` makes one from records: its columns are the fields
asked for, or, when none are, all columns of all records in the order in which they first occur.
-/

/-- A table. -/
structure Table where
  /-- The names of the columns, in order. -/
  columns : List String
  rows : List Row

namespace Table

/-- The first occurrences of texts, given those seen already. -/
def distinctFrom (seen : List String) : List String → List String
  | [] => []
  | s :: rest =>
    if seen.contains s then distinctFrom seen rest else s :: distinctFrom (s :: seen) rest

/-- The first occurrences of texts, in order. -/
def distinct (texts : List String) : List String := distinctFrom [] texts

/-- The columns for the fields asked for and the rows at hand. -/
def columnsFor (fields : List String) (rows : List Row) : List String :=
  if fields.isEmpty then distinct (rows.flatMap Json.Members.keys)
  else distinct (fields.map normalizeField)

/-- The table of records. -/
def ofRecords (policy : ArrayPolicy) (fields : List String) (records : List Json.Value) : Table :=
  let flat := records.map (Row.flatten policy)
  let columns := columnsFor fields flat
  ⟨columns, flat.map (·.project columns)⟩

/-- The number of rows. -/
def size (t : Table) : Nat := t.rows.length

/-- Whether there is nothing to show: no rows, or no columns. -/
def isBlank (t : Table) : Bool := t.rows.isEmpty || t.columns.isEmpty

/-- What a row shows in a column; nothing where there is no such cell. -/
def shown (row : Row) (column : String) : String := ((row.get? column).map cellText).getD ""

/-- What the table shows in a row and a column; nothing where there is no such cell. -/
def cell (t : Table) (row : Nat) (column : String) : String :=
  (t.rows[row]?.map (shown · column)).getD ""

end Table

/-!
## Tables as text

`Table.render` lays a table out in columns: a header in capitals, a rule, a line for each row, and
the number of rows. A cell is shown on one line and cut to `maxCell` characters (`fitChars`); a
column is as wide as the widest text in it, and the blanks at the end of a line are left out.
-/

/-- What is shown when there is nothing to show. -/
def noData : String := "No data retrieved."

namespace Table

/-- The greatest number of characters of a cell. -/
def maxCell : Nat := 48

/-- What a cut cell ends in. -/
def ellipsis : Char := '…'

/-- The words of a cell on one line, with one space between them, cut when there are too many
characters. -/
def fitChars (cs : List Char) : List Char :=
  let flat := [' '].intercalate (Text.wordChars cs)
  if maxCell < flat.length then flat.take (maxCell - 1) ++ [ellipsis] else flat

/-- What a cell looks like. -/
def fit (s : String) : String := String.ofList (fitChars s.toList)

/-- The texts of the header. -/
def headers (t : Table) : List String := t.columns.map Text.upper

/-- The texts of the rows, column by column. -/
def body (t : Table) : List (List String) :=
  t.rows.map fun row => t.columns.map fun column => fit (shown row column)

/-- Makes each column as wide as its text in a line. -/
def widen (widths : List Nat) (line : List String) : List Nat :=
  List.zipWith (fun w s => max w (Text.width s)) widths line

/-- The widths of the columns. -/
def widths (t : Table) : List Nat := t.body.foldl widen (t.headers.map Text.width)

/-- What stands between two columns. -/
def separator : String := " | "

/-- A line of texts in columns of the given widths. -/
def renderLine (widths : List Nat) (texts : List String) : String :=
  Text.line (Text.trimEnd (separator.intercalate (List.zipWith Text.pad widths texts)))

/-- The rule under the header. -/
def rule (widths : List Nat) : List String := widths.map (Text.copies · '-')

/-- The line that counts the rows. -/
def countLine (n : Nat) : String :=
  let ending := if n = 1 then "" else "s"
  Text.line s!"({n} row{ending})"

/-- The table as text. Its columns may have any width (`Text.pad`). -/
def render (t : Table) : String :=
  if t.isBlank then Text.line noData
  else
    let widths := t.widths
    renderLine widths t.headers ++ renderLine widths (rule widths) ++
      String.join (t.body.map (renderLine widths)) ++ countLine t.size

end Table

/-!
## Outcomes

What a query comes to: a table, nothing, or the news that it needs a signed-in account. An outcome
is shown as text or as JSON.
-/

/-- What a query comes to. -/
inductive Outcome where
  | table (t : Table)
  | noData
  /-- The operation needs a signed-in account. -/
  | stealth (operation : String)

namespace Outcome

/-- The outcome that a table is; a table without rows or columns is nothing to show. -/
def ofTable (t : Table) : Outcome := if t.isBlank then .noData else .table t

/-- The word for the kind of an outcome. -/
def status : Outcome → String
  | .table _ => "table"
  | .noData => "no_data"
  | .stealth _ => "stealth"

/-- The outcome as text. -/
def text : Outcome → String
  | .table t => t.render
  | .noData => Text.line FeedQuery.noData
  | .stealth operation =>
    Text.line (s!"{operation} needs a signed-in account. " ++
      "Log in with /login or set SKYQL_IDENTIFIER and SKYQL_PASSWORD.")

/-- The outcome as a JSON value: the rows of a table, an empty list for nothing. -/
def toValue : Outcome → Json.Value
  | .table t => .arr (t.rows.map .obj)
  | .noData => .arr []
  | .stealth operation =>
    .obj [("status", .str (Outcome.stealth operation).status), ("operation", .str operation)]

/-- The outcome as JSON text. -/
def json (o : Outcome) : String := o.toValue.pretty

end Outcome

end FeedQuery
