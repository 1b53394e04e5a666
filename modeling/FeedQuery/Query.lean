import FeedQuery.QueryError
import FeedQuery.Trace
import FeedQuery.Tree

/-!
# Queries

What a query asks for, how it is read from a tree, and how a text is read all the way to a query
(`Compiled.ofText`).
-/

namespace FeedQuery

/-!
## Parts and print

What a query asks for: a table, conditions on it and the fields to show. Conditions are kept as they
are written, as comparisons with connectors between them. `Query.print` writes a query in the
grammar's own form.
-/

/-- A comparison of a key with a value. -/
structure Predicate where
  /-- What is compared. -/
  key : String
  /-- How it is compared, as written. -/
  operator : String
  /-- What it is compared with. -/
  value : String
deriving DecidableEq

/-- A comparison on one line, with its value in quotes. -/
def Predicate.text (p : Predicate) : String := s!"{p.key} {p.operator} '{p.value}'"

/-- A word between two comparisons. -/
inductive Connector where
  | and
  | or
deriving DecidableEq

/-- The word as it is written. -/
def Connector.word : Connector → String
  | .and => "AND"
  | .or => "OR"

/-- A piece of a condition. -/
inductive Condition where
  | comparison (p : Predicate)
  | connector (c : Connector)
deriving DecidableEq

/-- What a query asks for. -/
structure Query where
  /-- The table, empty when none is named. -/
  table : String
  /-- The pieces of the condition, in the order of the text. -/
  conditions : List Condition
  /-- The fields to show, in order; none for all of them. -/
  fields : List String
deriving DecidableEq

namespace Query

/-- The comparison, for a piece that is one. -/
def comparison? : Condition → Option Predicate
  | .comparison p => some p
  | .connector _ => none

/-- The comparisons of a query, in order. -/
def comparisons (q : Query) : List Predicate := q.conditions.filterMap comparison?

/-- A text between single quotes. -/
def literal (s : String) : String := s!"'{s}'"

/-- A piece of a condition as it is written. -/
def printCondition : Condition → String
  | .comparison p => s!"{literal p.key} = {literal p.value}"
  | .connector c => c.word

/-- The fields as they are written. -/
def printFields (fields : List String) : String :=
  if fields.isEmpty then "*" else ", ".intercalate (fields.map literal)

/-- The query as it is written. -/
def print (q : Query) : String :=
  "SELECT " ++ printFields q.fields ++
    (if q.table = "" then "" else " FROM " ++ q.table) ++
    (if q.conditions.isEmpty then ""
      else " WHERE " ++ " ".intercalate (q.conditions.map printCondition))

end Query

end FeedQuery

namespace FeedQuery.Query

/-!
## Queries from trees

`Query.ofTree` reads what a tree asks for, as far as it can be read: a broken comparison does not
keep the table from being read. Only a tree that is not rooted in a `file` node is refused.
-/

/-- Whether a text has the quote at both ends, two of them. -/
def quotedBy (quote : Char) (cs : List Char) : Bool :=
  2 ≤ cs.length && cs.head? == some quote && cs.getLast? == some quote

/-- The characters without one pair of quotes around them, single or double. -/
def stripQuoteChars (cs : List Char) : List Char :=
  if quotedBy '\'' cs || quotedBy '"' cs then cs.tail.dropLast else cs

/-- The text without one pair of quotes around it, single or double. -/
def stripQuotes (s : String) : String := String.ofList (stripQuoteChars s.toList)

/-- What an operand says: its name, or its literal without the quotes. -/
def operandText? : Tree → Option String
  | .node .exprName (.leaf t :: _) _ => some t.text
  | .node .exprString (.leaf t :: _) _ => some (stripQuotes t.text)
  | _ => none

/-- The statement of a query, if its tree has one. -/
def statement? : Tree → Except Fault (Option Tree)
  | .leaf _ => .error .rootNotNode
  | .node .file children errors => .ok ((Tree.node .file children errors).child? .selectStmt)
  | .node kind .. => .error (.notFile kind)

/-- The clause of that kind, if the tree has one. -/
def clause? (tree : Tree) (kind : NodeKind) : Except Fault (Option Tree) :=
  (statement? tree).map fun stmt => stmt.bind (·.child? kind)

/-- The name of the table: the first identifier of its clause, or nothing. -/
def tableOf (tree : Tree) : Except Fault String :=
  (clause? tree .fromClause).map fun clause =>
    let names := (clause.map Tree.children).getD [] |>.filterMap Tree.token?
    ((names.find? (·.kind == .identifier)).map (·.text)).getD ""

/-- The fields: what the operands among the list's children say. -/
def fieldsOf (tree : Tree) : Except Fault (List String) :=
  (clause? tree .fieldList).map fun list =>
    (list.map Tree.children).getD [] |>.filterMap operandText?

/-- The connector that an operator is, if it is one. -/
def connector? : TokenKind → Option Connector
  | .kwAnd => some .and
  | .kwOr => some .or
  | _ => none

/-- Two conditions with a connector between them; it is dropped when a side is empty. -/
def join (c : Connector) (left right : List Condition) : List Condition :=
  if left.isEmpty || right.isEmpty then left ++ right else left ++ .connector c :: right

/-- The comparison of two operands, if both say something. -/
def comparisonOf (lhs rhs : Tree) (operator : String) : List Condition :=
  match operandText? lhs, operandText? rhs with
  | some key, some value => [.comparison ⟨key, operator, value⟩]
  | _, _ => []

/-- The pieces of the condition that a tree writes, from left to right. -/
def conditionsIn : Tree → List Condition
  | .node .exprBinary [lhs, .leaf op, rhs] _ =>
    match connector? op.kind with
    | some c => join c (conditionsIn lhs) (conditionsIn rhs)
    | none => if op.kind = .equals then comparisonOf lhs rhs op.text else []
  | _ => []

/-- The pieces of the condition: those of the first node of its clause. -/
def conditionsOf (tree : Tree) : Except Fault (List Condition) :=
  (clause? tree .whereClause).map fun clause =>
    match ((clause.map Tree.children).getD []).find? Tree.isNode with
    | some condition => conditionsIn condition
    | none => []

/-- What a tree asks for. -/
def ofTree (tree : Tree) : Except Fault Query := do
  let table ← tableOf tree
  let conditions ← conditionsOf tree
  let fields ← fieldsOf tree
  return ⟨table, conditions, fields⟩

end FeedQuery.Query

namespace FeedQuery

/-!
## Compiled queries

`Compiled.ofText` reads a text all the way: tokens, trace, tree and query, with everything that is
wrong with it. `Compiled.strict` refuses a text that anything is wrong with.
-/

/-- A text that has been read as a query. -/
structure Compiled where
  tree : Tree
  query : Query
  /-- All that is wrong with the text. -/
  diagnostics : List Diagnostic

namespace Compiled

/-- Whether nothing is wrong with the text. -/
def isClean (c : Compiled) : Bool := c.diagnostics.isEmpty

/-- Reads a query from a tree. -/
def ofTree (tree : Tree) : Except Fault Compiled :=
  (Query.ofTree tree).map fun query => ⟨tree, query, tree.diagnostics⟩

/-- Reads a text as a query. -/
def ofText (text : String) : Except QueryError Compiled :=
  (Tree.ofTrace (Trace.ofText text) >>= ofTree).mapError .invariant

/-- Reads a text as a query that nothing may be wrong with. -/
def strict (text : String) : Except QueryError Compiled := do
  let compiled ← ofText text
  match compiled.diagnostics with
  | [] => .ok compiled
  | first :: rest => .error (.broken (rest.length + 1) first)

end Compiled

end FeedQuery
