import FeedQuery.Token

/-!
# Parsing

A parse makes a trace of the tokens of a query. The rules of the grammar (`Grammar`) work on a
recorder, which keeps the tokens that are left and the trace so far (`Recorder`).
-/

namespace FeedQuery

/-!
## Traces of a parse

A parse is recorded as a trace: a list of events that open a node, close the innermost open node,
or take the next token. A trace goes with the tokens that it takes and with the messages about the
end of the query, which no token can carry.
-/

/-- The kinds of nodes. -/
inductive NodeKind where
  | file
  | selectStmt
  | fieldList
  | fromClause
  | whereClause
  /-- Two operands and an operator. -/
  | exprBinary
  /-- A name as an operand. -/
  | exprName
  /-- A literal as an operand. -/
  | exprString
  /-- A place where something is wrong. -/
  | errorTree
deriving DecidableEq

namespace NodeKind

/-- All kinds. -/
def all : List NodeKind :=
  [file, selectStmt, fieldList, fromClause, whereClause, exprBinary, exprName, exprString,
    errorTree]

/-- The name of a kind in traces and trees. -/
def name : NodeKind → String
  | file => "FILE"
  | selectStmt => "SELECT_STMT"
  | fieldList => "FIELD_LIST"
  | fromClause => "FROM_CLAUSE"
  | whereClause => "WHERE_CLAUSE"
  | exprBinary => "EXPR_BINARY"
  | exprName => "EXPR_NAME"
  | exprString => "EXPR_STRING"
  | errorTree => "ERROR_TREE"

/-- The kind of that name. -/
def ofName? (name : String) : Option NodeKind := all.find? (·.name == name)

end NodeKind

/-- A step of a trace. -/
inductive Event where
  /-- A node of that kind starts. -/
  | enter (kind : NodeKind)
  /-- The innermost node that has started ends. -/
  | leave
  /-- The next token becomes a child of the innermost node that has started. -/
  | advance
deriving DecidableEq

/-- The record of a parse. -/
structure Trace where
  /-- The tokens, with the messages of the parse added to theirs. -/
  tokens : List Token
  /-- The events, in order. -/
  events : List Event
  /-- The messages about the end of the query. -/
  unreported : List String
deriving DecidableEq

/-!
## Recording a trace

A recorder holds the tokens still to be taken, those taken, and the trace so far. The kind of a
node is not known when it starts: `enter` leaves a placeholder in the trace, and `leave` writes the
kind there when the node ends. A finished node can become the first child of a new one
(`enterBefore`), which puts a placeholder in front of it. A `Mark` tells where a placeholder or a
finished node stands.
-/

/-- The place in a trace where a node starts. -/
structure Mark where
  /-- The number of events before it. -/
  index : Nat
deriving DecidableEq

/-- A parse in progress. -/
structure Recorder where
  /-- The tokens taken, in order. -/
  taken : List Token
  /-- The tokens still to be taken. -/
  pending : List Token
  /-- The events so far. -/
  events : List Event
  /-- The messages about the end of the query so far. -/
  unreported : List String

namespace Recorder

/-- A parse that is about to start. -/
def ofTokens (tokens : List Token) : Recorder := ⟨[], tokens, [], []⟩

/-- The trace of a parse that has ended. -/
def toTrace (r : Recorder) : Trace := ⟨r.taken ++ r.pending, r.events, r.unreported⟩

/-- The kind that stands for one not known yet. -/
def placeholder : NodeKind := .errorTree

/-- Starts a node whose kind is not known yet. -/
def enter (r : Recorder) : Mark × Recorder :=
  (⟨r.events.length⟩, { r with events := r.events ++ [.enter placeholder] })

/-- Starts a node, of a kind not known yet, right before a finished one. -/
def enterBefore (r : Recorder) (first : Mark) : Mark × Recorder :=
  (first, { r with events := r.events.insertIdx first.index (.enter placeholder) })

/-- Ends the innermost node, which started at `mark`, and says its kind. -/
def leave (r : Recorder) (mark : Mark) (kind : NodeKind) : Mark × Recorder :=
  (mark, { r with events := r.events.set mark.index (.enter kind) ++ [.leave] })

/-- The kind of the next token. -/
def peek (r : Recorder) : Option TokenKind := r.pending.head?.map (·.kind)

/-- Whether the next token is of that kind. -/
def at? (r : Recorder) (kind : TokenKind) : Bool := r.peek == some kind

/-- Whether the next token starts a clause. -/
def atClause (r : Recorder) : Bool := r.peek.any (·.startsClause)

/-- Whether the next token can start a field. -/
def atField (r : Recorder) : Bool := r.peek.any (·.startsField)

/-- Takes the next token, if there is one. -/
def advance (r : Recorder) : Recorder :=
  match r.pending with
  | [] => r
  | t :: rest =>
    { r with taken := r.taken ++ [t], pending := rest, events := r.events ++ [.advance] }

/-- Records a message for the next token, or for the end of the query. -/
def complain (r : Recorder) (message : String) : Recorder :=
  match r.pending with
  | [] => { r with unreported := r.unreported ++ [message] }
  | t :: rest => { r with pending := t.withError message :: rest }

/-- Takes the next token unless it starts a clause. -/
def skip (r : Recorder) : Recorder := if r.atClause then r else r.advance

/-- Takes a token of that kind, or records the message and takes whatever is there instead. A token
that starts a clause is left for its own rule. -/
def expect (r : Recorder) (kind : TokenKind) (message : String) : Recorder :=
  if r.at? kind then r.advance else (r.complain message).skip

/-- Puts the next token into an error node of its own, with the message. -/
def reject (r : Recorder) (message : String) : Recorder :=
  let (mark, r) := r.enter
  (((r.complain message).advance).leave mark .errorTree).2

end Recorder

/-!
## The grammar

```
file    := statement
statement := SELECT fields [FROM IDENTIFIER] [WHERE expr]
fields  := field (COMMA field)*
field   := STAR | expr
expr    := operand (operator operand)*
operand := IDENTIFIER | STRING
operator := OR | AND | EQUALS
```

`Trace.ofTokens` parses any list of tokens. It never stops at an error: a message is recorded for
the token where something is wrong, and parsing goes on with that token taken or, when it starts a
clause, with that token left in place. Operators group by precedence and to the left
(`bindsTighter`). The rules take tokens one at a time, so the number of tokens left bounds every
loop.
-/

namespace Grammar

/-- The message where a statement does not start with its keyword. -/
def expectedSelect : String := "expected SELECT"

/-- The message where the word before a table name is missing. -/
def expectedFrom : String := "expected FROM"

/-- The message where a table name is missing. -/
def expectedTable : String := "expected a table name"

/-- The message where the word before a condition is missing. -/
def expectedWhere : String := "expected WHERE"

/-- The message where two fields are not separated. -/
def expectedComma : String := "expected ','"

/-- The message where a field is missing before a comma. -/
def expectedField : String := "expected a field"

/-- The message where an operand is missing. -/
def expectedExpression : String := "expected an expression"

/-- The message for a token after the end of the statement. -/
def unexpectedToken : String := "unexpected token"

/-- Whether the operator `right` goes into the right operand of `left`, as it does when it binds
more tightly. At the start of an expression there is no operator on the left. -/
def bindsTighter (left : Option TokenKind) (right : TokenKind) : Bool :=
  match right.precedence?, left.bind TokenKind.precedence? with
  | none, _ => false
  | some _, none => true
  | some r, some l => l < r

/-- Parses an operand. Anything else goes into an error node, unless it starts a clause. -/
def operand (r : Recorder) : Mark × Recorder :=
  let (mark, r) := r.enter
  match r.peek with
  | some .identifier => r.advance.leave mark .exprName
  | some .string => r.advance.leave mark .exprString
  | _ => (r.complain expectedExpression).skip.leave mark .errorTree

/-- Parses the operators, each with its right operand, that follow the operand at `first` and bind
more tightly than `left`. -/
def operators (left : Option TokenKind) : Nat → Mark → Recorder → Recorder
  | 0, _, r => r
  | fuel + 1, first, r =>
    match r.peek with
    | none => r
    | some op =>
      if bindsTighter left op then
        let (mark, r) := r.enterBefore first
        let (inner, r) := operand r.advance
        let r := operators (some op) fuel inner r
        let (whole, r) := r.leave mark .exprBinary
        operators left fuel whole r
      else r

/-- Parses an expression. -/
def expression (r : Recorder) : Recorder :=
  let (first, r) := operand r
  operators none r.pending.length first r

/-- Parses a field. A comma is left for the list. -/
def field (r : Recorder) : Recorder :=
  match r.peek with
  | some .star => r.advance
  | some .comma => r.complain expectedField
  | _ => expression r

/-- Parses the fields after the first one. -/
def moreFields : Nat → Recorder → Recorder
  | 0, r => r
  | fuel + 1, r =>
    if r.peek.isNone || r.atClause then r
    else if r.at? .comma then moreFields fuel (field r.advance)
    else if r.atField then moreFields fuel (field (r.complain expectedComma))
    else moreFields fuel (r.reject expectedComma)

/-- Parses the fields. -/
def fieldList (r : Recorder) : Recorder :=
  let (mark, r) := r.enter
  let r := field r
  ((moreFields r.pending.length r).leave mark .fieldList).2

/-- Parses the table. -/
def fromClause (r : Recorder) : Recorder :=
  let (mark, r) := r.enter
  (((r.expect .kwFrom expectedFrom).expect .identifier expectedTable).leave mark .fromClause).2

/-- Parses the condition. -/
def whereClause (r : Recorder) : Recorder :=
  let (mark, r) := r.enter
  ((expression (r.expect .kwWhere expectedWhere)).leave mark .whereClause).2

/-- Puts each token that is left into an error node. -/
def leftovers : Nat → Recorder → Recorder
  | 0, r => r
  | fuel + 1, r => if r.peek.isNone then r else leftovers fuel (r.reject unexpectedToken)

/-- Parses a statement and whatever comes after it. -/
def statement (r : Recorder) : Recorder :=
  let (mark, r) := r.enter
  let r := fieldList (r.expect .kwSelect expectedSelect)
  let r := if r.at? .kwFrom then fromClause r else r
  let r := if r.at? .kwWhere then whereClause r else r
  ((leftovers r.pending.length r).leave mark .selectStmt).2

/-- Parses a query. -/
def file (r : Recorder) : Recorder :=
  let (mark, r) := r.enter
  ((statement r).leave mark .file).2

end Grammar

/-- The trace of the parse of a list of tokens. -/
def Trace.ofTokens (tokens : List Token) : Trace :=
  (Grammar.file (Recorder.ofTokens tokens)).toTrace

/-- The trace of the parse of a text. -/
def Trace.ofText (text : String) : Trace := Trace.ofTokens (Token.scan text)

end FeedQuery
