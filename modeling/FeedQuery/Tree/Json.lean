import FeedQuery.Json.Basic
import FeedQuery.Tree

/-!
# Trees as JSON

A token is an object with its kind, text and place, a node one with its kind and children; messages
are left out when there are none. A child does not say which of the two it is: it is read as a token
if it can be, and as a node otherwise (`Tree.ofValue?`). The root of a tree is a node in any case
(`Tree.rootOfValue?`).
-/

namespace FeedQuery

/-- A list of texts, for a value that is one. -/
def Json.Value.strings? (v : Json.Value) : Option (List String) :=
  v.arr?.bind fun items => items.mapM Json.Value.str?

/-- The messages of a token or a node; none when the member is missing. -/
def errorsOf? (v : Json.Value) : Option (List String) :=
  match v.get? "errors" with
  | none => some []
  | some errors => errors.strings?

/-- Messages as a member, left out when there are none. -/
def errorsMember (errors : List String) : Json.Members :=
  if errors.isEmpty then [] else [("errors", Json.Value.ofStrings errors)]

namespace Span

/-- A place as a value. -/
def toValue (s : Span) : Json.Value :=
  .obj [("start", Json.Value.ofNat s.start), ("end", Json.Value.ofNat s.stop)]

/-- Reads a place. -/
def ofValue? (v : Json.Value) : Option Span := do
  let start ← (← v.get? "start").nat?
  let stop ← (← v.get? "end").nat?
  return ⟨start, stop⟩

end Span

namespace Token

/-- A token as a value. -/
def toValue (t : Token) : Json.Value :=
  .obj ([("kind", .str t.kind.name), ("text", .str t.text), ("span", t.span.toValue)] ++
    errorsMember t.errors)

/-- Reads a token. -/
def ofValue? (v : Json.Value) : Option Token := do
  let kind ← TokenKind.ofName? (← v.text? "kind")
  let text ← v.text? "text"
  let span ← Span.ofValue? (← v.get? "span")
  let errors ← errorsOf? v
  return ⟨kind, text, span, errors⟩

end Token

/-- A diagnostic as a value. -/
def Diagnostic.toValue (d : Diagnostic) : Json.Value :=
  .obj [("message", .str d.message), ("span", (d.span.map Span.toValue).getD .null)]

namespace Tree

mutual

/-- A tree as a value. -/
def toValue : Tree → Json.Value
  | .leaf t => t.toValue
  | .node kind children errors =>
    .obj ([("kind", .str kind.name), ("children", .arr (toValues children))] ++
      errorsMember errors)

/-- Trees as values. -/
def toValues : List Tree → List Json.Value
  | [] => []
  | t :: rest => toValue t :: toValues rest

end

/-- The node of the given children, whose kind and messages a value says. -/
def nodeOf? (v : Json.Value) (children : List Tree) : Option Tree := do
  let kind ← NodeKind.ofName? (← v.text? "kind")
  let errors ← errorsOf? v
  return .node kind children errors

mutual

/-- Reads a tree: a token if the value can be one, and a node otherwise. -/
def ofValue? : Json.Value → Option Tree
  | .obj members =>
    match Token.ofValue? (.obj members) with
    | some t => some (.leaf t)
    | none => (childrenIn? members).bind (nodeOf? (.obj members))
  | _ => none

/-- Reads the children among the members of an object. -/
def childrenIn? : List (String × Json.Value) → Option (List Tree)
  | [] => none
  | (key, value) :: rest =>
    if key = "children" then childrenOf? value else childrenIn? rest

/-- Reads the children of a node. -/
def childrenOf? : Json.Value → Option (List Tree)
  | .arr items => ofValues? items
  | _ => none

/-- Reads trees one after the other. -/
def ofValues? : List Json.Value → Option (List Tree)
  | [] => some []
  | v :: rest =>
    match ofValue? v, ofValues? rest with
    | some t, some ts => some (t :: ts)
    | _, _ => none

end

/-- Reads a tree whose root is a node. -/
def rootOfValue? : Json.Value → Option Tree
  | .obj members => (childrenIn? members).bind (nodeOf? (.obj members))
  | _ => none

end Tree

end FeedQuery
