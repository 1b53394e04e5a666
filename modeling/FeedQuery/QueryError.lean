import FeedQuery.Trace

/-!
# What can go wrong with a query

A query is refused for two causes. It breaks the grammar, which only a strict reading refuses; or a
trace or a tree that was handed in is no trace or tree of a query (`Fault`), which never happens to
those made from a text.
-/

namespace FeedQuery

/-- Why a trace is not the trace of a query, or a tree not its tree. -/
inductive Fault where
  /-- The trace takes more tokens than there are. -/
  | noTokenLeft
  /-- The trace ends a node where none has started. -/
  | leaveWithoutEnter
  /-- The trace takes fewer tokens than there are. -/
  | tokensLeft
  /-- The trace ends with that many pieces instead of one tree. -/
  | pieces (count : Nat)
  /-- The trace is that of a single token, or only starts a node. -/
  | rootNotNode
  /-- The root of the trace is of another kind. -/
  | rootKind (kind : NodeKind)
  /-- The tree that was handed in has a root of another kind. -/
  | notFile (kind : NodeKind)
deriving DecidableEq

/-- The wording of a fault. -/
def Fault.message : Fault → String
  | .noTokenLeft => "advance past the last token"
  | .leaveWithoutEnter => "close without a matching open"
  | .tokensLeft => "tokens left over after replay"
  | .pieces count => s!"expected a single root after replay, found {count} entries"
  | .rootNotNode => "root is not a tree node"
  | .rootKind kind => s!"root is {kind.name} instead of FILE"
  | .notFile kind => s!"expected a FILE root, found {kind.name}"

/-- Why a query is refused. -/
inductive QueryError where
  /-- A trace or a tree is not one of a query. -/
  | invariant (fault : Fault)
  /-- A strict reading found that many things wrong, of which this is the first. -/
  | broken (count : Nat) (first : Diagnostic)
deriving DecidableEq

/-- The wording of a refusal. -/
def QueryError.message : QueryError → String
  | .invariant fault => s!"Internal consistency error: {fault.message}"
  | .broken count first => s!"Query has {count} syntax error(s), first: {first.text}"

end FeedQuery
