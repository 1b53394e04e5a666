import FeedQuery.QueryError
import FeedQuery.Text
import FeedQuery.Text.Printable
import FeedQuery.Trace

/-!
# Trees of a query

A tree is a token or a node with a kind, children and messages. It is made from a trace
(`Tree.ofTrace`) and shown with indentation (`Tree.display`).
-/

namespace FeedQuery

/-!
## Tokens and nodes

A tree is a token or a node with a kind, children and messages. `Tree.leaves` and `Tree.events` are
its tokens and its trace, in order; `Tree.diagnostics` lists the messages of its tokens and then
those of its nodes, inner nodes first.
-/

/-- A tree of tokens. -/
inductive Tree where
  | leaf (token : Token)
  /-- A node of that kind, with messages that no token carries. -/
  | node (kind : NodeKind) (children : List Tree) (errors : List String)

namespace Tree

/-- The token, for a tree that is one. -/
def token? : Tree → Option Token
  | .leaf t => some t
  | .node .. => none

/-- The kind, for a node. -/
def kind? : Tree → Option NodeKind
  | .leaf _ => none
  | .node kind .. => some kind

/-- Whether a tree is a node. -/
def isNode (t : Tree) : Bool := t.kind?.isSome

/-- The children; a token has none. -/
def children : Tree → List Tree
  | .leaf _ => []
  | .node _ children _ => children

/-- The first child that is a node of that kind. -/
def child? (t : Tree) (kind : NodeKind) : Option Tree :=
  t.children.find? (·.kind? == some kind)

mutual

/-- The tokens of a tree, in order. -/
def leaves : Tree → List Token
  | .leaf t => [t]
  | .node _ children _ => leavesOf children

/-- The tokens of a list of trees, in order. -/
def leavesOf : List Tree → List Token
  | [] => []
  | t :: rest => leaves t ++ leavesOf rest

end

mutual

/-- The trace of a tree: a node starts before its children and ends after them. -/
def events : Tree → List Event
  | .leaf _ => [.advance]
  | .node kind children _ => .enter kind :: (eventsOf children ++ [.leave])

/-- The traces of a list of trees, one after the other. -/
def eventsOf : List Tree → List Event
  | [] => []
  | t :: rest => events t ++ eventsOf rest

end

/-- The texts of the tokens, joined. -/
def text (t : Tree) : String := String.join (t.leaves.map (·.text))

mutual

/-- The messages that nodes carry, those of inner nodes first. -/
def nodeErrors : Tree → List String
  | .leaf _ => []
  | .node _ children errors => nodeErrorsOf children ++ errors

/-- The messages that the nodes of a list of trees carry. -/
def nodeErrorsOf : List Tree → List String
  | [] => []
  | t :: rest => nodeErrors t ++ nodeErrorsOf rest

end

/-- The messages that a token carries, with its place. -/
def tokenDiagnostics (t : Token) : List Diagnostic :=
  t.errors.map fun message => ⟨message, some t.span⟩

/-- All that is wrong with a tree: the messages of its tokens in order, then those of its nodes. -/
def diagnostics (t : Tree) : List Diagnostic :=
  t.leaves.flatMap tokenDiagnostics ++ t.nodeErrors.map fun message => ⟨message, none⟩

/-- Whether anything is wrong with a tree. -/
def hasErrors (t : Tree) : Bool := !t.diagnostics.isEmpty

end Tree

/-!
## Trees from traces

`Tree.ofTrace` replays a trace. It keeps the nodes that have started but not ended, innermost first,
each with its children so far, and accepts a trace exactly when all nodes end, all tokens are taken
and one `file` node is left. The messages about the end of the query go to that node.
-/

/-- A trace being replayed. -/
structure Replay where
  tokens : List Token
  /-- The nodes that have started, innermost first, with their children so far, latest first. -/
  frames : List (NodeKind × List Tree)
  /-- The finished pieces outside all nodes, latest first. -/
  roots : List Tree

namespace Replay

/-- Adds a finished piece to the innermost node that has started. -/
def put (r : Replay) (piece : Tree) : Replay :=
  match r.frames with
  | [] => { r with roots := piece :: r.roots }
  | (kind, children) :: outer => { r with frames := (kind, piece :: children) :: outer }

/-- Replays an event. -/
def step (r : Replay) : Event → Except Fault Replay
  | .enter kind => .ok { r with frames := (kind, []) :: r.frames }
  | .advance =>
    match r.tokens with
    | [] => .error .noTokenLeft
    | t :: rest => .ok ({ r with tokens := rest }.put (.leaf t))
  | .leave =>
    match r.frames with
    | [] => .error .leaveWithoutEnter
    | (kind, children) :: outer =>
      .ok ({ r with frames := outer }.put (.node kind children.reverse []))

/-- Replays events one after the other, up to the first that cannot be. -/
def run (r : Replay) : List Event → Except Fault Replay
  | [] => .ok r
  | e :: rest =>
    match r.step e with
    | .error fault => .error fault
    | .ok r => r.run rest

/-- The number of pieces at the end: nodes that have started, and finished pieces outside of
finished nodes. -/
def pieces (r : Replay) : Nat :=
  r.frames.foldl (fun count frame => count + frame.2.length + 1) r.roots.length

/-- The tree that a replay ends with. -/
def finish (r : Replay) (unreported : List String) : Except Fault Tree :=
  if !r.tokens.isEmpty then .error .tokensLeft
  else if r.pieces ≠ 1 then .error (.pieces r.pieces)
  else
    match r.roots with
    | [.node .file children errors] => .ok (.node .file children (errors ++ unreported))
    | [.node kind _ _] => .error (.rootKind kind)
    | _ => .error .rootNotNode

end Replay

/-- The tree of a trace. -/
def Tree.ofTrace (trace : Trace) : Except Fault Tree :=
  match Replay.run ⟨trace.tokens, [], []⟩ trace.events with
  | .error fault => .error fault
  | .ok r => r.finish trace.unreported

end FeedQuery

namespace FeedQuery.Tree

/-!
## Trees as indented text

`Tree.display` writes a tree one node or token to a line, two spaces to a level, with messages on
lines of their own below what they belong to.
-/

/-- The spaces before a line of a level. -/
def indent (level : Nat) : String := Text.copies (2 * level) ' '

/-- The lines of messages. -/
def displayErrors (level : Nat) (errors : List String) : String :=
  String.join (errors.map fun message => Text.line s!"{indent level}!! {message}")

mutual

/-- The lines of a tree at a level. -/
def displayAt (level : Nat) : Tree → String
  | .leaf t =>
    Text.line s!"{indent level}{t.kind.name} {Text.quoted t.text}" ++
      displayErrors (level + 1) t.errors
  | .node kind children errors =>
    Text.line s!"{indent level}{kind.name}" ++ displayErrors (level + 1) errors ++
      displayAll (level + 1) children

/-- The lines of a list of trees at a level. -/
def displayAll (level : Nat) : List Tree → String
  | [] => ""
  | t :: rest => displayAt level t ++ displayAll level rest

end

/-- The tree as indented text. -/
def display (t : Tree) : String := displayAt 0 t

end FeedQuery.Tree
